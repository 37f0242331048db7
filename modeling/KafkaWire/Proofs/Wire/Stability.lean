import KafkaWire.Proofs.Wire.Canonical
import KafkaWire.Proofs.Wire.Format

/-!
# Values that were read are stable

What was read is already in normal form and within the limits of reading, so writing it and reading
it again changes nothing (`Format.sound_of_read`). How the bytes themselves change is another
matter. Superfluous digits of varints disappear, as for primitive values (`Output.Respells`), but
there is a second source of change: an array without a null form may still be announced by the mark
for null, which reads as no elements and is written again as a count of zero. The bytes differ then
although no fewer are written.

Both effects are absent from classic formats that were read by a reader which refuses the mark for
null where there is no null form. So this is the condition under which **the same bytes come back**;
without the refusal at least their number stays the same.

All of this is one induction over formats. What it proves is kept open in `Format.Transcription`: a
relation between an output and the bytes for which it is written, closed under sequence, which holds
of primitive values and of counts.

## Main definitions

* `Format.readAs` — reading, with or without null for arrays that have no null form
* `Format.isClassic` — formats without varints and compact lengths
* `Format.Transcription` — what is shown of all formats at once
* `Output.Shrinks`, `Output.Refills` — the two relations for which it is used

## Main results

* `Format.sound_of_read` — what was read is in normal form and within the limits
* `Format.Transcription.format` — the induction
* `Format.length_le_of_read`, `Format.exists_writes_of_readAs` — what becomes of the bytes
-/

namespace KafkaWire

/-! ### Refusing null -/

/-- A run of values is read by any reader that reads each of them the same. -/
theorem Reader.count_of_refines {α : Type} {r r' : Reader α}
    (h : ∀ {bs rest a}, r bs = .ok (a, rest) → r' bs = .ok (a, rest)) {n : Nat}
    {bs rest : Bytes} {as : List α} (hcount : count n r bs = .ok (as, rest)) :
    count n r' bs = .ok (as, rest) := by
  induction n generalizing bs as with
  | zero => exact hcount
  | succ n ih =>
    obtain ⟨a, mid, tail, ha, htail, rfl⟩ := count_succ_eq_ok hcount
    exact count_of_ok (h ha) (ih htail)

namespace Format

variable {α : Type}

/-- Reads a value. If `strict`, the mark for null is refused in front of an array that has no null
form. -/
def readAs {α : Type} (strict : Bool) : Format α → Reader α
  | .primitive p => p.read
  | .array form items => do
    match ← Length.read .items form with
    | some length => Reader.count length (items.readAs strict)
    | none => if strict then throw (.invalidLength .items (-1)) else return []
  | .nullableArray form items => do
    match ← Length.read .items form with
    | some length => return some (← Reader.count length (items.readAs strict))
    | none => return none
  | .pair first second => do return (← first.readAs strict, ← second.readAs strict)
  | .onlyIf present part absent => if present then part.readAs strict else pure absent
  | .required part _ => do return some (← part.readAs strict)
  | .record make _ _ _ parts => do return make (← parts.readAs strict)

/-- Reading is the lenient case. -/
theorem readAs_false (f : Format α) : f.readAs false = f.read := by
  induction f with
  | primitive p => rfl
  | array form items ih =>
    refine bind_congr fun length => ?_
    cases length with
    | none => rfl
    | some n => simp only [ih]
  | nullableArray form items ih =>
    refine bind_congr fun length => ?_
    cases length with
    | none => rfl
    | some n => simp only [ih]
  | pair first second ih₁ ih₂ => simp only [readAs, read, ih₁, ih₂]
  | onlyIf present part absent ih => simp only [readAs, read, ih]
  | required part empty ih => simp only [readAs, read, ih]
  | record make fields hfields hmake parts ih => simp only [readAs, read, ih]

/-- A strict reading is a lenient one. -/
theorem read_of_readAs {strict : Bool} {f : Format α} {x : α} {bs rest : Bytes}
    (h : f.readAs strict bs = .ok (x, rest)) : f.read bs = .ok (x, rest) := by
  induction f generalizing bs rest with
  | primitive p => exact h
  | array form items ih =>
    obtain ⟨length, mid, hlength, h⟩ := Reader.bind_eq_ok.mp h
    rw [read, Reader.bind_of_ok hlength]
    cases length with
    | none =>
      cases strict with
      | true => cases h
      | false => exact h
    | some n => exact Reader.count_of_refines ih h
  | nullableArray form items ih =>
    obtain ⟨length, mid, hlength, h⟩ := Reader.bind_eq_ok.mp h
    rw [read, Reader.bind_of_ok hlength]
    cases length with
    | none => exact h
    | some n =>
      obtain ⟨xs, hxs, rfl⟩ := Reader.bind_pure_eq_ok.mp h
      exact Reader.bind_pure_eq_ok.mpr ⟨xs, Reader.count_of_refines ih hxs, rfl⟩
  | pair first second ih₁ ih₂ =>
    obtain ⟨x, mid, hx, h⟩ := Reader.bind_eq_ok.mp h
    obtain ⟨y, hy, rfl⟩ := Reader.bind_pure_eq_ok.mp h
    rw [read, Reader.bind_of_ok (ih₁ hx)]
    exact Reader.bind_pure_eq_ok.mpr ⟨y, ih₂ hy, rfl⟩
  | onlyIf present part absent ih =>
    cases present with
    | true => exact ih h
    | false => exact h
  | required part empty ih =>
    obtain ⟨y, hy, rfl⟩ := Reader.bind_pure_eq_ok.mp h
    exact Reader.bind_pure_eq_ok.mpr ⟨y, ih hy, rfl⟩
  | record make fields hfields hmake parts ih =>
    obtain ⟨y, hy, rfl⟩ := Reader.bind_pure_eq_ok.mp h
    exact Reader.bind_pure_eq_ok.mpr ⟨y, ih hy, rfl⟩

/-! ### The values -/

/-- Elements that are read in a row are within the limits if each of them is, since their number
was checked before. -/
theorem sound_of_count {items : Format α} (hitem : ∀ {bs rest a}, items.read bs = .ok (a, rest) →
    items.normal a = a ∧ items.WithinLimits a) {form : Form} {n : Nat} {bs mid rest : Bytes}
    {xs : List α} (hlength : Length.read .items form bs = .ok (some n, mid))
    (h : Reader.count n items.read mid = .ok (xs, rest)) :
    xs.map items.normal = xs ∧ xs.length ≤ maxItems ∧ ∀ x ∈ xs, items.WithinLimits x := by
  have heach := Reader.forall_of_count hitem h
  obtain rfl := Reader.length_of_count h
  refine ⟨?_, (Length.readNumber_of_read hlength).2, fun x hmem => (heach x hmem).2⟩
  have hsame : xs.map items.normal = xs.map id :=
    List.map_congr_left fun x hmem => (heach x hmem).1
  rw [hsame, List.map_id]

/-- **What was read is stable**: it is in normal form and within the limits of reading. -/
theorem sound_of_read {f : Format α} {x : α} {bs rest : Bytes} (h : f.read bs = .ok (x, rest)) :
    f.normal x = x ∧ f.WithinLimits x := by
  induction f generalizing bs rest with
  | primitive p => exact ⟨rfl, (Primitive.readable_of_read h).withinLimits⟩
  | array form items ih =>
    obtain ⟨length, mid, hlength, h⟩ := Reader.bind_eq_ok.mp h
    cases length with
    | none =>
      cases h
      exact ⟨rfl, Nat.zero_le _, fun _ hmem => nomatch hmem⟩
    | some n =>
      exact sound_of_count ih hlength h
  | nullableArray form items ih =>
    obtain ⟨length, mid, hlength, h⟩ := Reader.bind_eq_ok.mp h
    cases length with
    | none =>
      cases h
      exact ⟨rfl, fun _ hmem => nomatch hmem⟩
    | some n =>
      obtain ⟨xs, hxs, rfl⟩ := Reader.bind_pure_eq_ok.mp h
      obtain ⟨hnormal, hlimits⟩ := sound_of_count ih hlength hxs
      refine ⟨congrArg some hnormal, ?_⟩
      rintro _ ⟨rfl⟩
      exact hlimits
  | pair first second ih₁ ih₂ =>
    obtain ⟨x, mid, hx, h⟩ := Reader.bind_eq_ok.mp h
    obtain ⟨y, hy, rfl⟩ := Reader.bind_pure_eq_ok.mp h
    obtain ⟨hx_normal, hx_limits⟩ := ih₁ hx
    obtain ⟨hy_normal, hy_limits⟩ := ih₂ hy
    exact ⟨Prod.ext hx_normal hy_normal, hx_limits, hy_limits⟩
  | onlyIf present part absent ih =>
    cases present with
    | true =>
      obtain ⟨hnormal, hlimits⟩ := ih h
      exact ⟨hnormal, fun _ => hlimits⟩
    | false =>
      cases h
      exact ⟨rfl, fun hpresent => nomatch hpresent⟩
  | required part empty ih =>
    obtain ⟨y, hy, rfl⟩ := Reader.bind_pure_eq_ok.mp h
    obtain ⟨hnormal, hlimits⟩ := ih hy
    exact ⟨congrArg some hnormal, hlimits⟩
  | record make fields hfields hmake parts ih =>
    obtain ⟨y, hy, rfl⟩ := Reader.bind_pure_eq_ok.mp h
    obtain ⟨hnormal, hlimits⟩ := ih hy
    refine ⟨?_, ?_⟩
    · rw [normal, hfields, hnormal]
    · rw [WithinLimits, hfields]
      exact hlimits

/-! ### The bytes -/

/-- Formats of which every value has one spelling, unless null stands for no elements. -/
def isClassic {α : Type} : Format α → Bool
  | .primitive p => p.isClassic
  | .array form items => form = .classic && items.isClassic
  | .nullableArray form items => form = .classic && items.isClassic
  | .pair first second => first.isClassic && second.isClassic
  | .onlyIf present part _ => !present || part.isClassic
  | .required part _ => part.isClassic
  | .record _ _ _ _ parts => parts.isClassic

/-- A classic layout has no tag buffer. -/
@[simp] theorem isClassic_tags : (tags .classic).isClassic = true := rfl

@[simp] theorem isClassic_ite (c : Prop) [Decidable c] (f g : Format α) :
    (if c then f else g).isClassic = if c then f.isClassic else g.isClassic := by
  split <;> rfl

/-- A relation between an output and the bytes that were read, before others, for what it writes.
It is closed under sequence and holds of primitive values and of counts, if `classic` only of
classic ones, and unless `strict` of a count of zero where the mark for null was read. -/
structure Transcription (classic strict : Bool) (T : Output → Bytes → Bytes → Prop) : Prop where
  empty : ∀ bs, T .empty bs bs
  append : ∀ {o o' bs mid rest}, T o bs mid → T o' mid rest → T (o ++ o') bs rest
  primitive : ∀ {p : Primitive} {x bs rest}, (classic = true → p.isClassic = true) →
    p.read bs = .ok (x, rest) → T (p.write x) bs rest
  count : ∀ {form n bs rest}, (classic = true → form = .classic) →
    Length.read .items form bs = .ok (some n, rest) → T (Length.write .items form n) bs rest
  null : ∀ {form bs rest}, (classic = true → form = .classic) →
    Length.read .items form bs = .ok (none, rest) → T (Length.writeNull .items form) bs rest
  nullAsEmpty : ∀ {form bs rest}, (classic = true → form = .classic) → strict = false →
    Length.read .items form bs = .ok (none, rest) → T (Length.write .items form 0) bs rest

namespace Transcription

variable {classic strict : Bool} {T : Output → Bytes → Bytes → Prop}

theorem forEach (hT : Transcription classic strict T) {r : Reader α} {write : α → Output}
    (hr : ∀ {bs rest a}, r bs = .ok (a, rest) → T (write a) bs rest) {n : Nat} {bs rest : Bytes}
    {as : List α} (h : Reader.count n r bs = .ok (as, rest)) :
    T (Output.forEach write as) bs rest := by
  induction n generalizing bs as with
  | zero =>
    cases h
    exact hT.empty _
  | succ n ih =>
    obtain ⟨a, mid, tail, ha, htail, rfl⟩ := Reader.count_succ_eq_ok h
    exact hT.append (hr ha) (ih htail)

/-- **What holds of primitive values and counts holds of all formats.** -/
theorem format (hT : Transcription classic strict T) {f : Format α}
    (hf : classic = true → f.isClassic = true) {x : α} {bs rest : Bytes}
    (h : f.readAs strict bs = .ok (x, rest)) : T (f.write x) bs rest := by
  induction f generalizing bs rest with
  | primitive p => exact hT.primitive hf h
  | array form items ih =>
    have hform : classic = true → form = .classic := fun hc =>
      of_decide_eq_true (Bool.and_eq_true_iff.mp (hf hc)).1
    have hitems : classic = true → items.isClassic = true := fun hc =>
      (Bool.and_eq_true_iff.mp (hf hc)).2
    obtain ⟨length, mid, hlength, h⟩ := Reader.bind_eq_ok.mp h
    cases length with
    | none =>
      cases strict with
      | true => cases h
      | false =>
        cases h
        rw [write, List.length_nil, Output.forEach_nil, Output.append_empty]
        exact hT.nullAsEmpty hform rfl hlength
    | some n =>
      obtain rfl := Reader.length_of_count h
      exact hT.append (hT.count hform hlength) (hT.forEach (ih hitems) h)
  | nullableArray form items ih =>
    have hform : classic = true → form = .classic := fun hc =>
      of_decide_eq_true (Bool.and_eq_true_iff.mp (hf hc)).1
    have hitems : classic = true → items.isClassic = true := fun hc =>
      (Bool.and_eq_true_iff.mp (hf hc)).2
    obtain ⟨length, mid, hlength, h⟩ := Reader.bind_eq_ok.mp h
    cases length with
    | none =>
      cases h
      exact hT.null hform hlength
    | some n =>
      obtain ⟨xs, hxs, rfl⟩ := Reader.bind_pure_eq_ok.mp h
      obtain rfl := Reader.length_of_count hxs
      exact hT.append (hT.count hform hlength) (hT.forEach (ih hitems) hxs)
  | pair first second ih₁ ih₂ =>
    obtain ⟨x, mid, hx, h⟩ := Reader.bind_eq_ok.mp h
    obtain ⟨y, hy, rfl⟩ := Reader.bind_pure_eq_ok.mp h
    have hfirst := ih₁ (fun hc => (Bool.and_eq_true_iff.mp (hf hc)).1) hx
    have hsecond := ih₂ (fun hc => (Bool.and_eq_true_iff.mp (hf hc)).2) hy
    exact hT.append hfirst hsecond
  | onlyIf present part absent ih =>
    cases present with
    | true => exact ih hf h
    | false =>
      cases h
      exact hT.empty _
  | required part empty ih =>
    obtain ⟨y, hy, rfl⟩ := Reader.bind_pure_eq_ok.mp h
    exact ih hf hy
  | record make fields hfields hmake parts ih =>
    obtain ⟨y, hy, rfl⟩ := Reader.bind_pure_eq_ok.mp h
    rw [write, hfields]
    exact ih hf hy

end Transcription

end Format

/-! ### Never more bytes -/

/-- Writing `o`, if it ends well, takes no more bytes than stand in `bs` before `rest`. -/
def Output.Shrinks (o : Output) (bs rest : Bytes) : Prop :=
  ∃ front, bs = front ++ rest ∧ ∀ out, o.Writes out → out.length ≤ front.length

theorem Output.Respells.shrinks {o : Output} {bs rest : Bytes} (h : o.Respells bs rest) :
    o.Shrinks bs rest := by
  obtain ⟨front, hbs, hfront⟩ := h
  refine ⟨front, hbs, fun out hout => ?_⟩
  rcases hfront out hout with rfl | hlt
  · exact Nat.le_refl _
  · exact Nat.le_of_lt hlt

/-- A count of zero takes as many bytes as the mark for null, whatever the form. -/
theorem Length.length_of_writes_zero {form : Form} {out null : Bytes}
    (h : (write .items form 0).Writes out) (hnull : (writeNull .items form).Writes null) :
    out.length = null.length := by
  rw [← h.bytes, ← hnull.bytes, Output.length_bytes, Output.length_bytes]
  cases form <;> decide

theorem Format.transcription_shrinks : Format.Transcription false false Output.Shrinks where
  empty bs := Output.Respells.of_empty.shrinks
  append := by
    rintro o o' _ _ rest ⟨front, rfl, hfront⟩ ⟨back, rfl, hback⟩
    refine ⟨front ++ back, (List.append_assoc _ _ _).symm, fun out hout => ?_⟩
    obtain ⟨out₁, out₂, h₁, h₂, rfl⟩ := Output.writes_append.mp hout
    have hle₁ := hfront out₁ h₁
    have hle₂ := hback out₂ h₂
    simp only [List.length_append]
    omega
  primitive _ h := (Primitive.canonical_read _ h).shrinks
  count _ h := (Length.respells_of_read h).shrinks
  null _ h := (Length.respells_of_readNull h).shrinks
  nullAsEmpty {form bs rest} _ _ h := by
    obtain ⟨front, hbs, hfront⟩ := (Length.respells_of_readNull h).shrinks
    refine ⟨front, hbs, fun out hout => ?_⟩
    have hnull : (Length.writeNull .items form).Writes (Length.writeNull .items form).bytes :=
      ⟨Length.fault_writeNull .items form, rfl⟩
    rw [Length.length_of_writes_zero hout hnull]
    exact hfront _ hnull

/-! ### As many bytes, or the same -/

/-- Writing `o` ends well and takes as many bytes as stand in `bs` before `rest`, and the very same
ones if `strict`. -/
def Output.Refills (strict : Bool) (o : Output) (bs rest : Bytes) : Prop :=
  ∃ front out, bs = front ++ rest ∧ o.Writes out ∧ out.length = front.length ∧
    (strict = true → out = front)

theorem Output.Refills.of_writes {strict : Bool} {o : Output} {bs front rest : Bytes}
    (h : o.Writes front) (hbs : bs = front ++ rest) : o.Refills strict bs rest :=
  ⟨front, front, hbs, h, rfl, fun _ => rfl⟩

theorem Format.transcription_refills (strict : Bool) :
    Format.Transcription true strict (Output.Refills strict) where
  empty bs := .of_writes (Output.writes_empty.mpr rfl) (List.nil_append bs).symm
  append := by
    rintro o o' _ _ rest ⟨front, out, rfl, hout, hlength, hsame⟩
      ⟨front', out', rfl, hout', hlength', hsame'⟩
    refine ⟨front ++ front', out ++ out', (List.append_assoc _ _ _).symm, hout.append hout', ?_, ?_⟩
    · rw [List.length_append, List.length_append, hlength, hlength']
    · intro hstrict
      rw [hsame hstrict, hsame' hstrict]
  primitive hp h := by
    obtain ⟨front, hfront, hbs⟩ := Primitive.exact_read (hp rfl) h
    exact .of_writes hfront hbs
  count hform h := by
    obtain rfl := hform rfl
    obtain ⟨front, hfront, hbs⟩ := Length.exact_of_read h
    exact .of_writes hfront hbs
  null hform h := by
    obtain rfl := hform rfl
    obtain ⟨front, hfront, hbs⟩ := Length.exact_of_readNull h
    exact .of_writes hfront hbs
  nullAsEmpty {form bs rest} hform hlenient h := by
    obtain rfl := hform rfl
    obtain ⟨front, hfront, hbs⟩ := Length.exact_of_readNull h
    have hzero : (Length.write .items .classic 0).Writes (Length.write .items .classic 0).bytes :=
      ⟨rfl, rfl⟩
    refine ⟨front, _, hbs, hzero, Length.length_of_writes_zero hzero hfront, ?_⟩
    rw [hlenient]
    exact fun hstrict => nomatch hstrict

namespace Format

variable {α : Type} {f : Format α} {x : α} {bs : Bytes}

/-- **Writing what was read never takes more bytes** than reading it did. -/
theorem length_le_of_read {rest out : Bytes} (h : f.read bs = .ok (x, rest))
    (hout : (f.write x).Writes out) : out.length + rest.length ≤ bs.length := by
  rw [← readAs_false] at h
  obtain ⟨front, rfl, hfront⟩ := transcription_shrinks.format (fun hc => nomatch hc) h
  have hle := hfront out hout
  rw [List.length_append]
  omega

/-- **What was read in a classic format can be written**, and takes as many bytes. If it was read
strictly, they are the same. -/
theorem exists_writes_of_readAs {strict : Bool} (classic : f.isClassic = true)
    (h : f.readAs strict bs = .ok (x, [])) :
    ∃ out, (f.write x).Writes out ∧ out.length = bs.length ∧ (strict = true → out = bs) := by
  obtain ⟨front, out, rfl, hout, hlength, hsame⟩ :=
    (transcription_refills strict).format (fun _ => classic) h
  rw [List.append_nil]
  exact ⟨out, hout, hlength, hsame⟩

end Format

end KafkaWire
