import KafkaWire.Proofs.Wire.Primitive
import KafkaWire.Wire.Format

/-!
# Formats come back in normal form

A format has one writer and one reader, and they disagree only where the wire has no room for
what is in memory: a part that the version lacks, a missing value that can only be written as an
empty one. `Format.normal` is the value with these places filled as the reader fills them, and the
round trip yields it.

## What a format must satisfy

Reading an array demands at least as many bytes as there are elements. A format whose elements
could be written as nothing would therefore refuse its own output, so the round trip is proved
for the formats in which every element of an array leaves a trace (`Format.Countable`).

## Main definitions

* `Format.normal` — what a value is read back as
* `Format.WithinLimits` — arrays and tag buffers on the wire are within what reading admits
* `Format.LeavesTrace`, `Format.Countable` — no value, or no element of an array, vanishes

## Main results

* `Format.read_write` — the round trip, whatever follows
* `Format.write_normal` — the normal form is written the same
-/

namespace KafkaWire

namespace Format

variable {α β : Type}

/-- The value that a written one is read back as. -/
def normal {α : Type} : Format α → α → α
  | .primitive _, x => x
  | .array _ items, xs => xs.map items.normal
  | .nullableArray _ items, xs => xs.map (List.map items.normal)
  | .pair first second, (x, y) => (first.normal x, second.normal y)
  | .onlyIf present part absent, x => if present then part.normal x else absent
  | .required part empty, x => some (part.normal (x.getD empty))
  | .record make fields _ _ parts, x => make (parts.normal (fields x))

/-- What is on the wire keeps to the limits of reading: arrays are not too long, and tag buffers
are as they should be. Parts that are not written may hold anything. -/
def WithinLimits {α : Type} : Format α → α → Prop
  | .primitive p, x => p.kind.WithinLimits x
  | .array _ items, xs => xs.length ≤ maxItems ∧ ∀ x ∈ xs, items.WithinLimits x
  | .nullableArray _ items, xs =>
    ∀ ys ∈ xs, ys.length ≤ maxItems ∧ ∀ y ∈ ys, items.WithinLimits y
  | .pair first second, (x, y) => first.WithinLimits x ∧ second.WithinLimits y
  | .onlyIf present part _, x => present = true → part.WithinLimits x
  | .required part empty, x => part.WithinLimits (x.getD empty)
  | .record _ fields _ _ parts, x => parts.WithinLimits (fields x)

instance decidableWithinLimits {α : Type} : (f : Format α) → (x : α) → Decidable (f.WithinLimits x)
  | .primitive p, x => inferInstanceAs (Decidable (p.kind.WithinLimits x))
  | .array _ items, xs =>
    have := decidableWithinLimits items
    inferInstanceAs (Decidable (xs.length ≤ maxItems ∧ ∀ x ∈ xs, items.WithinLimits x))
  | .nullableArray _ items, xs =>
    have := decidableWithinLimits items
    inferInstanceAs
      (Decidable (∀ ys ∈ xs, ys.length ≤ maxItems ∧ ∀ y ∈ ys, items.WithinLimits y))
  | .pair first second, (x, y) =>
    have := decidableWithinLimits first x
    have := decidableWithinLimits second y
    inferInstanceAs (Decidable (first.WithinLimits x ∧ second.WithinLimits y))
  | .onlyIf present part _, x =>
    have := decidableWithinLimits part x
    inferInstanceAs (Decidable (present = true → part.WithinLimits x))
  | .required part empty, x => decidableWithinLimits part (x.getD empty)
  | .record _ fields _ _ parts, x => decidableWithinLimits parts (fields x)

/-! ### Traces -/

/-- No value is written as no bytes at all. -/
def LeavesTrace (f : Format α) : Prop := ∀ x, ¬ (f.write x).Writes []

/-- In every array, each element leaves a trace. -/
def Countable {α : Type} : Format α → Prop
  | .primitive _ => True
  | .array _ items => items.LeavesTrace ∧ items.Countable
  | .nullableArray _ items => items.LeavesTrace ∧ items.Countable
  | .pair first second => first.Countable ∧ second.Countable
  | .onlyIf _ part _ => part.Countable
  | .required part _ => part.Countable
  | .record _ _ _ _ parts => parts.Countable

theorem leavesTrace_primitive (p : Primitive) : (primitive p).LeavesTrace :=
  p.not_writes_nil

theorem leavesTrace_array (form : Form) (items : Format α) : (array form items).LeavesTrace :=
  fun _ => Primitive.not_writes_nil_of_length

theorem LeavesTrace.pair_left {first : Format α} (h : first.LeavesTrace) (second : Format β) :
    (pair first second).LeavesTrace := by
  rintro ⟨x, y⟩ hnil
  obtain ⟨front, back, hfirst, _, happend⟩ := Output.writes_append.mp hnil
  obtain ⟨rfl, -⟩ := List.append_eq_nil_iff.mp happend
  exact h x hfirst

theorem LeavesTrace.pair_right {second : Format β} (h : second.LeavesTrace) (first : Format α) :
    (pair first second).LeavesTrace := by
  rintro ⟨x, y⟩ hnil
  obtain ⟨front, back, _, hsecond, happend⟩ := Output.writes_append.mp hnil
  obtain ⟨-, rfl⟩ := List.append_eq_nil_iff.mp happend
  exact h y hsecond

theorem LeavesTrace.required {part : Format α} (h : part.LeavesTrace) (empty : α) :
    (required part empty).LeavesTrace :=
  fun x => h (x.getD empty)

theorem LeavesTrace.record {parts : Format α} (h : parts.LeavesTrace) {make : α → β}
    {fields : β → α} {hfields : ∀ a, fields (make a) = a} {hmake : ∀ b, make (fields b) = b} :
    (record make fields hfields hmake parts).LeavesTrace :=
  fun x => h (fields x)

/-! ### The round trip -/

/-- **The round trip.** What was written is read back in normal form, whatever follows it. -/
theorem read_write {f : Format α} (hf : f.Countable) {x : α} (hx : f.WithinLimits x)
    {bs : Bytes} (h : (f.write x).Writes bs) (rest : Bytes) :
    f.read (bs ++ rest) = .ok (f.normal x, rest) := by
  induction f generalizing bs rest with
  | primitive p => exact Primitive.read_write hx h rest
  | array form items ih =>
    obtain ⟨front, back, hcount, hitems, rfl⟩ := Output.writes_append.mp h
    have hread := Reader.count_forEach items.normal
      (fun y hy front hfront => ih hf.2 (hx.2 y hy) hfront) hitems rest
    rw [List.append_assoc, read,
      Reader.bind_of_ok (Length.read_write_items (fun y _ => hf.1 y) hx.1 hcount hitems rest)]
    exact hread
  | nullableArray form items ih =>
    cases x with
    | none =>
      rw [read, Reader.bind_of_ok (Length.read_writeNull h rest)]
      rfl
    | some xs =>
      obtain ⟨hlen, hlimits⟩ := hx xs rfl
      obtain ⟨front, back, hcount, hitems, rfl⟩ := Output.writes_append.mp h
      have hread := Reader.count_forEach items.normal
        (fun y hy front hfront => ih hf.2 (hlimits y hy) hfront) hitems rest
      rw [List.append_assoc, read,
        Reader.bind_of_ok (Length.read_write_items (fun y _ => hf.1 y) hlen hcount hitems rest)]
      show (Reader.count xs.length items.read >>= fun ys => pure (some ys)) (back ++ rest) = _
      rw [Reader.bind_of_ok hread]
      rfl
  | pair first second ih₁ ih₂ =>
    obtain ⟨x, y⟩ := x
    obtain ⟨front, back, hfirst, hsecond, rfl⟩ := Output.writes_append.mp h
    rw [List.append_assoc, read, Reader.bind_of_ok (ih₁ hf.1 hx.1 hfirst _),
      Reader.bind_of_ok (ih₂ hf.2 hx.2 hsecond rest)]
    rfl
  | onlyIf present part absent ih =>
    cases present with
    | true => exact ih hf (hx rfl) h rest
    | false =>
      obtain rfl := Output.writes_empty.mp h
      rfl
  | required part empty ih =>
    rw [read, Reader.bind_of_ok (ih hf hx h rest)]
    rfl
  | record make fields hfields hmake parts ih =>
    rw [read, Reader.bind_of_ok (ih hf hx h rest)]
    rfl

/-! ### Normal forms -/

theorem forEach_congr {write write' : α → Output} {xs : List α} {g : α → α}
    (h : ∀ x ∈ xs, write (g x) = write' x) :
    Output.forEach write (xs.map g) = Output.forEach write' xs := by
  induction xs with
  | nil => rfl
  | cons x xs ih =>
    rw [List.map_cons, Output.forEach_cons, Output.forEach_cons, h x List.mem_cons_self,
      ih fun y hy => h y (List.mem_cons_of_mem x hy)]

/-- **The normal form is written the same**, chunk by chunk, even where writing fails. -/
theorem write_normal (f : Format α) (x : α) : f.write (f.normal x) = f.write x := by
  induction f with
  | primitive p => rfl
  | array form items ih =>
    simp only [write, normal, List.length_map]
    rw [forEach_congr fun y _ => ih y]
  | nullableArray form items ih =>
    cases x with
    | none => rfl
    | some xs =>
      simp only [write, normal, Option.map_some, List.length_map]
      rw [forEach_congr fun y _ => ih y]
  | pair first second ih₁ ih₂ =>
    obtain ⟨x, y⟩ := x
    simp only [write, normal, ih₁, ih₂]
  | onlyIf present part absent ih =>
    cases present with
    | true => simp only [write, normal, if_true, ih]
    | false => rfl
  | required part empty ih => simp only [write, normal, Option.getD_some, ih]
  | record make fields hfields hmake parts ih => simp only [write, normal, hfields, ih]

end Format

end KafkaWire
