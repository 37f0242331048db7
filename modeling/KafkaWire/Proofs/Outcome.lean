import KafkaWire.Error
import Mathlib.Data.List.Forall2

/-!
# Outcomes of steps that may fail

Outside the readers, steps that may fail follow one another without anything being handed on but
their results. The first failure is the outcome of all of them.

## Main results

* `bind_outcome_eq_ok`, `bind_outcome_eq_error` — one step after another
* `mapM_outcome_eq_ok`, `exists_mapM_outcome_iff` — the same step for each element of a list
* `outcome_eq_ok_iff`, `outcome_eq_error_iff` — two descriptions of which one always applies
-/

namespace KafkaWire

variable {α β : Type}

theorem bind_outcome_eq_ok {x : Except Error α} {f : α → Except Error β} {b : β} :
    (x >>= f) = .ok b ↔ ∃ a, x = .ok a ∧ f a = .ok b := by
  cases x with
  | error e => simp [bind, Except.bind]
  | ok a => simp [bind, Except.bind]

theorem bind_outcome_eq_error {x : Except Error α} {f : α → Except Error β} {e : Error} :
    (x >>= f) = .error e ↔ x = .error e ∨ ∃ a, x = .ok a ∧ f a = .error e := by
  cases x with
  | error e => simp [bind, Except.bind]
  | ok a => simp [bind, Except.bind]

/-- **Every element has its result**, in the same order. -/
theorem mapM_outcome_eq_ok {f : α → Except Error β} {xs : List α} {ys : List β} :
    xs.mapM f = .ok ys ↔ List.Forall₂ (fun x y => f x = .ok y) xs ys := by
  induction xs generalizing ys with
  | nil =>
    rw [List.mapM_nil, List.forall₂_nil_left_iff]
    exact ⟨fun h => (Except.ok.inj h).symm, fun h => h ▸ rfl⟩
  | cons x xs ih =>
    rw [List.mapM_cons, bind_outcome_eq_ok, List.forall₂_cons_left_iff]
    constructor
    · rintro ⟨y, hy, h⟩
      obtain ⟨ys', hys, hpure⟩ := bind_outcome_eq_ok.mp h
      exact ⟨y, ys', hy, ih.mp hys, (Except.ok.inj hpure).symm⟩
    · rintro ⟨y, ys', hy, hys, rfl⟩
      exact ⟨y, hy, bind_outcome_eq_ok.mpr ⟨ys', ih.mpr hys, rfl⟩⟩

theorem exists_mapM_outcome_iff {f : α → Except Error β} {xs : List α} :
    (∃ ys, xs.mapM f = .ok ys) ↔ ∀ x ∈ xs, ∃ y, f x = .ok y := by
  simp only [mapM_outcome_eq_ok]
  induction xs with
  | nil => simp
  | cons x xs ih =>
    rw [List.forall_mem_cons, ← ih]
    constructor
    · rintro ⟨_, h⟩
      obtain ⟨y, ys, hy, hys, -⟩ := List.forall₂_cons_left_iff.mp h
      exact ⟨⟨y, hy⟩, ys, hys⟩
    · rintro ⟨⟨y, hy⟩, ys, hys⟩
      exact ⟨y :: ys, .cons hy hys⟩

/-- A result comes from some element. -/
theorem exists_mem_of_mapM_outcome {f : α → Except Error β} {xs : List α} {ys : List β}
    (h : xs.mapM f = .ok ys) {y : β} (hy : y ∈ ys) : ∃ x ∈ xs, f x = .ok y := by
  rw [mapM_outcome_eq_ok] at h
  induction h with
  | nil => cases hy
  | cons hhead _ ih =>
    rcases List.mem_cons.mp hy with rfl | hmem
    · exact ⟨_, List.mem_cons_self, hhead⟩
    · obtain ⟨x, hx, hf⟩ := ih hmem
      exact ⟨x, List.mem_cons_of_mem _ hx, hf⟩

/-- The results of a list that is cut at an element. -/
theorem exists_cut_of_mapM_outcome {f : α → Except Error β} {front back : List α} {x : α}
    {ys : List β} (h : (front ++ x :: back).mapM f = .ok ys) : ∃ before y after,
      f x = .ok y ∧ back.mapM f = .ok after ∧ ys = before ++ y :: after := by
  rw [List.mapM_append] at h
  obtain ⟨before, -, h⟩ := bind_outcome_eq_ok.mp h
  obtain ⟨rest, hrest, hpure⟩ := bind_outcome_eq_ok.mp h
  obtain ⟨y, after, hy, hafter, rfl⟩ :=
    List.forall₂_cons_left_iff.mp (mapM_outcome_eq_ok.mp hrest)
  exact ⟨before, y, after, hy, mapM_outcome_eq_ok.mpr hafter, (Except.ok.inj hpure).symm⟩

/-! ### Exact descriptions -/

section Exact

variable {ε : Type} {x : Except ε α} {Good : α → Prop} {Bad : ε → Prop}
  (hgood : ∀ a, Good a → x = .ok a) (hbad : ∀ e, Bad e → x = .error e)
  (hall : (∃ a, Good a) ∨ ∃ e, Bad e)

include hgood hbad hall

/-- **A description of the results is exact** if one of the failures covers the rest. -/
theorem outcome_eq_ok_iff {a : α} : x = .ok a ↔ Good a := by
  refine ⟨fun h => ?_, hgood a⟩
  rcases hall with ⟨b, hb⟩ | ⟨e, he⟩
  · exact Except.ok.inj ((hgood b hb).symm.trans h) ▸ hb
  · cases (hbad e he).symm.trans h

/-- **A description of the failures is exact** if one of the results covers the rest. -/
theorem outcome_eq_error_iff {e : ε} : x = .error e ↔ Bad e := by
  refine ⟨fun h => ?_, hbad e⟩
  rcases hall with ⟨a, ha⟩ | ⟨e', he'⟩
  · cases (hgood a ha).symm.trans h
  · exact Except.error.inj ((hbad e' he').symm.trans h) ▸ he'

end Exact

end KafkaWire
