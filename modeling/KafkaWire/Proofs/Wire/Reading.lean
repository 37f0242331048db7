import KafkaWire.Proofs.Wire.Written
import KafkaWire.Wire.Reader

/-!
# Runs of readers

A reader built from others runs one after the other on what is left. These are the equations by
which such a run is followed, once for every way of building a reader, so that no proof about a
layout ever opens the monad.

Two directions are needed. Forward, a step whose outcome is known is taken
(`Reader.bind_of_ok`). Backward, a run that is over is taken apart into the steps that led there
(`Reader.bind_eq_ok`, `Reader.bind_eq_error`).

## Main definitions

* `Reader.Spells` — bytes that are read as a value, whatever follows them
* `Reader.Exact` — a reader of values that have one spelling only
* `Reader.whole` — a reader of complete buffers, whatever it says of bytes left over

## Main results

* `Reader.bind_of_ok`, `Reader.bind_of_error`, `Reader.bind_eq_ok`, `Reader.bind_eq_error` —
  sequencing
* `Reader.takeExactly_append`, `Reader.take_append` — bytes that are there are taken
* `Reader.count_forEach` — elements that come back one by one come back in a row
* `Reader.whole_eq_ok`, `Reader.whole_eq_error`, `Reader.all_eq_ok` — a complete buffer is one with
  nothing left
-/

namespace KafkaWire

namespace Reader

variable {α β : Type}

/-! ### Sequencing -/

theorem bind_of_ok {r : Reader α} {bs rest : Bytes} {a : α} (h : r bs = .ok (a, rest))
    (f : α → Reader β) : (r >>= f) bs = f a rest := by
  show StateT.bind r f bs = f a rest
  simp [StateT.bind, h, bind, Except.bind]

theorem bind_of_error {r : Reader α} {bs : Bytes} {e : Error} (h : r bs = .error e)
    (f : α → Reader β) : (r >>= f) bs = .error e := by
  show StateT.bind r f bs = .error e
  simp [StateT.bind, h, bind, Except.bind]

/-- **A run that ends well** is one whose steps do. -/
theorem bind_eq_ok {r : Reader α} {f : α → Reader β} {bs rest : Bytes} {b : β} :
    (r >>= f) bs = .ok (b, rest) ↔ ∃ a mid, r bs = .ok (a, mid) ∧ f a mid = .ok (b, rest) := by
  cases h : r bs with
  | ok p =>
    rw [bind_of_ok h]
    constructor
    · intro hf
      exact ⟨p.1, p.2, rfl, hf⟩
    · rintro ⟨a, mid, hp, hf⟩
      cases hp
      exact hf
  | error e =>
    rw [bind_of_error h]
    simp

/-- A run fails in its first step, or after it. -/
theorem bind_eq_error {r : Reader α} {f : α → Reader β} {bs : Bytes} {e : Error} :
    (r >>= f) bs = .error e ↔
      r bs = .error e ∨ ∃ a mid, r bs = .ok (a, mid) ∧ f a mid = .error e := by
  cases h : r bs with
  | ok p =>
    rw [bind_of_ok h]
    constructor
    · intro hf
      exact .inr ⟨p.1, p.2, rfl, hf⟩
    · rintro (herror | ⟨a, mid, hp, hf⟩)
      · cases herror
      · cases hp
        exact hf
  | error e' =>
    rw [bind_of_error h]
    simp

/-- A run whose last step computes a value from the one read. -/
theorem bind_pure_eq_ok {r : Reader α} {f : α → β} {bs rest : Bytes} {b : β} :
    (r >>= fun a => pure (f a)) bs = .ok (b, rest) ↔ ∃ a, r bs = .ok (a, rest) ∧ f a = b := by
  rw [bind_eq_ok]
  constructor
  · rintro ⟨a, mid, hr, hpure⟩
    cases hpure
    exact ⟨a, hr, rfl⟩
  · rintro ⟨a, hr, rfl⟩
    exact ⟨a, rest, hr, rfl⟩

/-- An outcome that is known beforehand takes no bytes. -/
theorem ofExcept_eq_ok {outcome : Except Error α} {bs rest : Bytes} {a : α} :
    (MonadExcept.ofExcept outcome : Reader α) bs = .ok (a, rest) ↔
      outcome = .ok a ∧ bs = rest := by
  constructor
  · intro h
    cases outcome with
    | error e => cases h
    | ok a' =>
      cases h
      exact ⟨rfl, rfl⟩
  · rintro ⟨rfl, rfl⟩
    rfl

theorem ofExcept_eq_error {outcome : Except Error α} {bs : Bytes} {e : Error} :
    (MonadExcept.ofExcept outcome : Reader α) bs = .error e ↔ outcome = .error e := by
  constructor
  · intro h
    cases outcome with
    | error e' =>
      cases h
      rfl
    | ok a => cases h
  · rintro rfl
    rfl

@[simp] theorem pure_run (a : α) (bs : Bytes) : (pure a : Reader α) bs = .ok (a, bs) := rfl

@[simp] theorem throw_run (e : Error) (bs : Bytes) :
    (throw e : Reader α) bs = .error e := rfl

/-! ### Taking bytes -/

theorem require_of_le {n : Nat} {bs : Bytes} (h : n ≤ bs.length) :
    require n bs = .ok ((), bs) := by
  simp [require, h]

theorem require_eq_ok {n : Nat} {bs rest : Bytes} {u : Unit} (h : require n bs = .ok (u, rest)) :
    rest = bs := by
  simp only [require] at h
  split at h <;> cases h
  rfl

theorem takeExactly_append {n : Nat} {taken : Bytes} (h : taken.length = n) (rest : Bytes) :
    takeExactly n (taken ++ rest) = .ok (⟨taken, h⟩, rest) := by
  subst h
  simp [takeExactly]

theorem take_append {n : Nat} {taken : Bytes} (h : taken.length = n) (rest : Bytes) :
    take n (taken ++ rest) = .ok (taken, rest) := by
  rw [take, bind_of_ok (takeExactly_append h rest), pure_run]

theorem takeExactly_eq_ok {n : Nat} {bs rest : Bytes}
    {taken : { bytes : Bytes // bytes.length = n }} (h : takeExactly n bs = .ok (taken, rest)) :
    bs = taken.val ++ rest := by
  simp only [takeExactly] at h
  split at h
  · cases h
    exact (List.take_append_drop n bs).symm
  · cases h

theorem take_eq_ok {n : Nat} {bs taken rest : Bytes} (h : take n bs = .ok (taken, rest)) :
    taken.length = n ∧ bs = taken ++ rest := by
  rw [take, bind_eq_ok] at h
  obtain ⟨front, mid, hstep, hpure⟩ := h
  cases hpure
  exact ⟨front.property, takeExactly_eq_ok hstep⟩

/-! ### Repetition -/

theorem count_of_ok {r : Reader α} {n : Nat} {bs mid rest : Bytes} {a : α} {as : List α}
    (h : r bs = .ok (a, mid)) (hs : count n r mid = .ok (as, rest)) :
    count (n + 1) r bs = .ok (a :: as, rest) := by
  rw [count_succ, h]
  simp only [hs]

/-- A run of `n + 1` values that ends well reads one, and then `n`. -/
theorem count_succ_eq_ok {r : Reader α} {n : Nat} {bs rest : Bytes} {as : List α}
    (h : count (n + 1) r bs = .ok (as, rest)) :
    ∃ a mid tail, r bs = .ok (a, mid) ∧ count n r mid = .ok (tail, rest) ∧ as = a :: tail := by
  rw [count_succ] at h
  cases hr : r bs with
  | error e => simp [hr] at h
  | ok p =>
    obtain ⟨a, mid⟩ := p
    simp only [hr] at h
    cases hc : count n r mid with
    | error e => simp [hc] at h
    | ok q =>
      obtain ⟨tail, rest'⟩ := q
      simp only [hc] at h
      cases h
      exact ⟨a, mid, tail, rfl, hc, rfl⟩

theorem length_of_count {r : Reader α} {n : Nat} {bs rest : Bytes} {as : List α}
    (h : count n r bs = .ok (as, rest)) : as.length = n := by
  induction n generalizing bs as with
  | zero =>
    cases h
    rfl
  | succ n ih =>
    obtain ⟨a, mid, tail, -, htail, rfl⟩ := count_succ_eq_ok h
    exact congrArg Nat.succ (ih htail)

/-- Whatever holds of every value that a reader returns holds of all values in a run. -/
theorem forall_of_count {r : Reader α} {P : α → Prop}
    (hr : ∀ {bs rest a}, r bs = .ok (a, rest) → P a) {n : Nat} {bs rest : Bytes} {as : List α}
    (h : count n r bs = .ok (as, rest)) : ∀ a ∈ as, P a := by
  induction n generalizing bs as with
  | zero =>
    cases h
    exact fun _ hmem => nomatch hmem
  | succ n ih =>
    obtain ⟨a, mid, tail, hhead, htail, rfl⟩ := count_succ_eq_ok h
    intro b hb
    rcases List.mem_cons.mp hb with rfl | hb
    · exact hr hhead
    · exact ih htail b hb

/-- **Elements come back in a row** if each of them comes back in front of anything. -/
theorem count_forEach {r : Reader β} {write : α → Output} (value : α → β) {xs : List α}
    {bs : Bytes} (hitem : ∀ x ∈ xs, ∀ front, (write x).Writes front →
      ∀ rest, r (front ++ rest) = .ok (value x, rest))
    (h : (Output.forEach write xs).Writes bs) (rest : Bytes) :
    count xs.length r (bs ++ rest) = .ok (xs.map value, rest) := by
  induction xs generalizing bs with
  | nil =>
    rw [Output.forEach_nil, Output.writes_empty] at h
    subst h
    rfl
  | cons x xs ih =>
    rw [Output.forEach_cons, Output.writes_append] at h
    obtain ⟨front, back, hx, hxs, rfl⟩ := h
    rw [List.append_assoc]
    exact count_of_ok (hitem x List.mem_cons_self front hx (back ++ rest))
      (ih (fun y hy => hitem y (List.mem_cons_of_mem x hy)) hxs)

/-! ### Spellings -/

/-- The bytes are read as the value, whatever follows them. -/
def Spells (r : Reader α) (bs : Bytes) (a : α) : Prop :=
  ∀ rest, r (bs ++ rest) = .ok (a, rest)

namespace Spells

variable {r : Reader α} {bs bs' : Bytes} {a : α} {b : β}

theorem bind {f : α → Reader β} (h : r.Spells bs a) (h' : (f a).Spells bs' b) :
    (r >>= f).Spells (bs ++ bs') b := by
  intro rest
  rw [List.append_assoc, Reader.bind_of_ok (h (bs' ++ rest))]
  exact h' rest

theorem map (h : r.Spells bs a) (f : α → β) : (r >>= fun a => pure (f a)).Spells bs (f a) := by
  intro rest
  exact Reader.bind_pure_eq_ok.mpr ⟨a, h rest, rfl⟩

/-- Two spellings of one value are the same if they stand at the front of the same bytes. -/
theorem append_inj (h : r.Spells bs a) (h' : r.Spells bs' a) {rest rest' : Bytes} :
    bs ++ rest = bs' ++ rest' ↔ bs = bs' ∧ rest = rest' := by
  constructor
  · intro heq
    have hread := h' rest'
    rw [← heq, h rest] at hread
    obtain rfl : rest = rest' := (Prod.mk.inj (Except.ok.inj hread)).2
    exact ⟨List.append_cancel_right heq, rfl⟩
  · rintro ⟨rfl, rfl⟩
    rfl

end Spells

/-! ### Values of one spelling -/

/-- A value is read from nothing but what it is written as: it has one spelling only. -/
def Exact (r : Reader α) (write : α → Output) : Prop :=
  ∀ {bs rest : Bytes} {a : α}, r bs = .ok (a, rest) →
    ∃ front, (write a).Writes front ∧ bs = front ++ rest

/-- A run of values has one spelling if each of them has. -/
theorem Exact.count {r : Reader α} {write : α → Output} (hr : r.Exact write) (n : Nat) :
    (count n r).Exact (Output.forEach write) := by
  intro bs rest as h
  induction n generalizing bs as with
  | zero =>
    cases h
    exact ⟨[], Output.writes_empty.mpr rfl, rfl⟩
  | succ n ih =>
    obtain ⟨a, mid, tail, ha, htail, rfl⟩ := count_succ_eq_ok h
    obtain ⟨front, hfront, rfl⟩ := hr ha
    obtain ⟨back, hback, rfl⟩ := ih htail
    refine ⟨front ++ back, ?_, (List.append_assoc _ _ _).symm⟩
    rw [Output.forEach_cons]
    exact hfront.append hback

/-! ### Complete buffers -/

/-- The value that a complete buffer spells, where `leftover` tells of bytes left over. -/
def whole (leftover : Nat → Error) (r : Reader α) (bs : Bytes) : Except Error α :=
  match r bs with
  | .error e => .error e
  | .ok (a, []) => .ok a
  | .ok (_, b :: rest) => .error (leftover (b :: rest).length)

/-- A complete buffer is read by a run that leaves nothing. -/
theorem whole_eq_ok {leftover : Nat → Error} {r : Reader α} {bs : Bytes} {a : α} :
    r.whole leftover bs = .ok a ↔ r bs = .ok (a, []) := by
  rw [whole]
  cases r bs with
  | error e => simp
  | ok p =>
    obtain ⟨a', rest⟩ := p
    cases rest <;> simp

/-- A complete buffer is refused by the run, or for what the run leaves. -/
theorem whole_eq_error {leftover : Nat → Error} {r : Reader α} {bs : Bytes} {e : Error} :
    r.whole leftover bs = .error e ↔
      r bs = .error e ∨ ∃ a rest, r bs = .ok (a, rest) ∧ rest ≠ [] ∧ e = leftover rest.length := by
  rw [whole]
  cases r bs with
  | error e' => simp
  | ok p =>
    obtain ⟨a, rest⟩ := p
    cases rest with
    | nil => simp
    | cons b rest =>
      constructor
      · intro h
        cases h
        exact .inr ⟨a, b :: rest, rfl, List.cons_ne_nil b rest, rfl⟩
      · rintro (herror | ⟨_, _, hp, -, rfl⟩)
        · cases herror
        · cases hp
          rfl

theorem all_eq_whole (r : Reader α) :
    r.all = r.whole fun count => .packetDecoding (.leftover count) := by
  funext bs
  simp only [all, whole, bind, Except.bind]
  cases r bs with
  | error e => rfl
  | ok p =>
    obtain ⟨a, rest⟩ := p
    cases rest <;> rfl

theorem all_eq_ok {r : Reader α} {bs : Bytes} {a : α} :
    r.all bs = .ok a ↔ r bs = .ok (a, []) := by
  rw [all_eq_whole, whole_eq_ok]

/-- What cannot be read at all cannot be read to its end. -/
theorem all_of_error {r : Reader α} {bs : Bytes} {e : Error} (h : r bs = .error e) :
    r.all bs = .error e := by
  rw [all_eq_whole, whole, h]

end Reader

end KafkaWire
