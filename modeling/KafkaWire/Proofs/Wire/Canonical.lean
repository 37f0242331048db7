import KafkaWire.Proofs.Wire.Exact

/-!
# Writing again what was read

Reading admits more spellings than writing produces: a varint may have superfluous zero digits,
and varints are everywhere, as numbers, as compact lengths, as counts, tags and sizes of tagged
fields. Writing the value again removes these digits and changes nothing else. So the bytes
written are **those that were read, or fewer of them**, and which of the two it is shows in their
number alone.

That alternative survives concatenation, since nothing that is written again ever grows: if the
whole is as long as before, so is every part.

## Main definitions

* `Output.Respells` — writing gives the bytes that were read, or fewer
* `Reader.Canonical` — and that for every value a reader returns

## Main results

* `Output.Respells.append` — one after another
* `Reader.canonical_uvarint` — varints, where the two spellings differ
* `Primitive.canonical_read` — all primitive types
-/

namespace KafkaWire

/-! ### Bytes in place of others -/

/-- Writing `o`, if it ends well, gives the bytes that stand in `bs` before `rest`, or fewer. -/
def Output.Respells (o : Output) (bs rest : Bytes) : Prop :=
  ∃ front, bs = front ++ rest ∧ ∀ out, o.Writes out → out = front ∨ out.length < front.length

namespace Output.Respells

variable {o o' : Output} {bs mid rest : Bytes}

theorem of_writes {front : Bytes} (h : o.Writes front) (hbs : bs = front ++ rest) :
    o.Respells bs rest :=
  ⟨front, hbs, fun _ hout => .inl (hout.unique h)⟩

theorem of_chunk {c : Chunk} (h : bs = c.bytes ++ rest) : (chunk c).Respells bs rest :=
  of_writes (writes_chunk.mpr rfl) h

theorem of_empty : empty.Respells bs bs :=
  of_writes (writes_empty.mpr rfl) (List.nil_append bs).symm

/-- An output that may fail besides, but writes nothing else. -/
theorem mono (h : o.Respells bs rest) (hwrites : ∀ out, o'.Writes out → o.Writes out) :
    o'.Respells bs rest := by
  obtain ⟨front, hbs, hfront⟩ := h
  exact ⟨front, hbs, fun out hout => hfront out (hwrites out hout)⟩

/-- **Outputs that respell their parts respell the whole.** -/
theorem append (h : o.Respells bs mid) (h' : o'.Respells mid rest) :
    (o ++ o').Respells bs rest := by
  obtain ⟨front, rfl, hfront⟩ := h
  obtain ⟨back, rfl, hback⟩ := h'
  refine ⟨front ++ back, (List.append_assoc _ _ _).symm, fun out hout => ?_⟩
  obtain ⟨out₁, out₂, h₁, h₂, rfl⟩ := writes_append.mp hout
  simp only [List.length_append]
  rcases hfront out₁ h₁ with rfl | hlt₁
  · rcases hback out₂ h₂ with rfl | hlt₂
    · exact .inl rfl
    · exact .inr (by omega)
  · rcases hback out₂ h₂ with rfl | hlt₂
    · exact .inr (by omega)
    · exact .inr (by omega)

/-- In a buffer that was read to its end. -/
theorem length_le (h : o.Respells bs []) {out : Bytes} (hout : o.Writes out) :
    out.length ≤ bs.length := by
  obtain ⟨front, rfl, hfront⟩ := h
  rw [List.append_nil]
  rcases hfront out hout with rfl | hlt
  · exact Nat.le_refl _
  · exact Nat.le_of_lt hlt

/-- The length tells whether anything changed. -/
theorem eq_iff_length (h : o.Respells bs []) {out : Bytes} (hout : o.Writes out) :
    out = bs ↔ out.length = bs.length := by
  obtain ⟨front, rfl, hfront⟩ := h
  rw [List.append_nil]
  constructor
  · rintro rfl
    rfl
  · intro hlength
    rcases hfront out hout with heq | hlt
    · exact heq
    · omega

end Output.Respells

open Output (Respells)

/-! ### Readers -/

namespace Reader

variable {α : Type}

/-- Writing a value that was read gives the bytes it was read from, or fewer. -/
def Canonical (r : Reader α) (write : α → Output) : Prop :=
  ∀ {bs rest a}, r bs = .ok (a, rest) → (write a).Respells bs rest

/-- Values of one spelling are no exception. -/
theorem Exact.canonical {r : Reader α} {write : α → Output} (h : r.Exact write) :
    r.Canonical write := by
  intro bs rest a hread
  obtain ⟨front, hfront, hbs⟩ := h hread
  exact .of_writes hfront hbs

theorem Canonical.count {r : Reader α} {write : α → Output} (hr : r.Canonical write) (n : Nat) :
    (count n r).Canonical (Output.forEach write) := by
  intro bs rest as h
  induction n generalizing bs as with
  | zero =>
    cases h
    exact .of_empty
  | succ n ih =>
    obtain ⟨a, mid, tail, ha, htail, rfl⟩ := count_succ_eq_ok h
    rw [Output.forEach_cons]
    exact (hr ha).append (ih htail)

end Reader

/-! ### Varints -/

namespace Reader

/-- Numbers, where the two spellings differ. -/
theorem canonical_uvarint : uvarint.Canonical fun n => .chunk (.uvarint n) := by
  intro bs rest n h
  obtain ⟨digits, rfl, hdigits⟩ := Varint.read_eq_ok.mp h
  refine ⟨digits, rfl, fun out hout => ?_⟩
  obtain rfl := Output.writes_chunk.mp hout
  exact hdigits.eq_or_longer

theorem canonical_varint : varint.Canonical fun n => .chunk (.uvarint (zigzag n)) := by
  intro bs rest n h
  obtain ⟨k, hk, rfl⟩ := bind_pure_eq_ok.mp h
  show (Output.chunk (.uvarint (zigzag (unzigzag k)))).Respells bs rest
  rw [zigzag_unzigzag]
  exact canonical_uvarint hk

theorem canonical_uvarint32 : uvarint32.Canonical fun n => .chunk (.uvarint n.toUInt64) := by
  intro bs rest n h
  exact canonical_uvarint (uvarint_of_uvarint32 h)

end Reader

/-! ### Tag buffers -/

namespace TagBuffer

/-- The size of a field was read before its data, so writing the size of the data gives it back. -/
theorem canonical_readField (last : Option UInt32) : (readField last).Canonical writeField := by
  intro bs rest field h
  obtain ⟨size, mid, mid', htag, hsize, hdata, -⟩ := readField_eq_ok h
  obtain ⟨hlength, hmid⟩ := Reader.take_eq_ok hdata
  have hsame : UInt64.ofNat field.data.length = size.toUInt64 := by
    rw [hlength]
    exact UInt64.ofNat_uInt32ToNat size
  rw [writeField, hsame]
  exact ((Reader.canonical_uvarint32 htag).append (Reader.canonical_uvarint32 hsize)).append
    (.of_chunk hmid)

/-- The fields that follow those already read are written for the bytes that follow. -/
theorem respells_of_readFieldsInto {n : Nat} {done fields : List TagField} {bs rest : Bytes}
    (h : readFieldsInto n done bs = .ok (fields, rest)) :
    ∃ tail, fields = done.reverse ++ tail ∧ tail.length = n ∧
      (Output.forEach writeField tail).Respells bs rest := by
  induction n generalizing done bs with
  | zero =>
    cases h
    exact ⟨[], (List.append_nil _).symm, rfl, .of_empty⟩
  | succ n ih =>
    obtain ⟨field, mid, hfield, hrun⟩ := readFieldsInto_succ_eq_ok h
    obtain ⟨tail, rfl, rfl, htail⟩ := ih hrun
    refine ⟨field :: tail, by simp, rfl, ?_⟩
    rw [Output.forEach_cons]
    exact (canonical_readField _ hfield).append htail

theorem canonical_read : read.Canonical write := by
  intro bs rest t h
  obtain ⟨count, mid, hcount, -, hfields⟩ := read_eq_ok h
  obtain ⟨tail, htail_eq, hlength, htail⟩ := respells_of_readFieldsInto hfields
  obtain rfl : t.fields = tail := htail_eq
  have hsame : UInt64.ofNat t.fields.length = count := by
    rw [hlength]
    exact UInt64.ofNat_toNat
  rw [write, hsame]
  exact (Reader.canonical_uvarint hcount).append htail

end TagBuffer

/-! ### Lengths -/

namespace Length

/-- A length within the limits is written in compact form as a varint. -/
theorem writes_compact {what : Counted} {n : Nat} {out : Bytes}
    (h : (write what .compact n).Writes out) :
    (Output.chunk (.uvarint (UInt64.ofNat (n + 1)))).Writes out := by
  unfold write at h
  split at h
  · cases Output.not_writes_fail h
  · exact h

/-- Writing a length that was read gives the bytes that stood for it, or fewer. -/
theorem respells_of_read {what : Counted} {form : Form} {n : Nat} {bs rest : Bytes}
    (h : read what form bs = .ok (some n, rest)) : (write what form n).Respells bs rest := by
  cases form with
  | classic =>
    obtain ⟨front, hfront, hbs⟩ := exact_of_read h
    exact .of_writes hfront hbs
  | compact =>
    obtain ⟨hnumber, -⟩ := readNumber_of_read h
    obtain ⟨m, hm, hnumber⟩ := Reader.bind_pure_eq_ok.mp hnumber
    obtain ⟨hne, hval⟩ := Option.ite_none_left_eq_some.mp hnumber
    have hpos : m.toNat ≠ 0 := fun hzero => hne (UInt64.toNat_inj.mp hzero)
    have hnext : n + 1 = m.toNat := by
      have hval' : ((m.toNat - 1 : Nat) : Int) = n := Option.some.inj hval
      omega
    have hsame : UInt64.ofNat (n + 1) = m := by
      rw [hnext]
      exact UInt64.ofNat_toNat
    refine .mono (Reader.canonical_uvarint hm) fun out hout => ?_
    rw [← hsame]
    exact writes_compact hout

theorem respells_of_readNull {what : Counted} {form : Form} {bs rest : Bytes}
    (h : read what form bs = .ok (none, rest)) : (writeNull what form).Respells bs rest := by
  cases form with
  | classic =>
    obtain ⟨front, hfront, hbs⟩ := exact_of_readNull h
    exact .of_writes hfront hbs
  | compact =>
    obtain ⟨m, hm, hnull⟩ := Reader.bind_pure_eq_ok.mp (readNumber_of_readNull h)
    obtain rfl := eq_of_ite_eq_none hnull
    exact Reader.canonical_uvarint hm

end Length

/-! ### Primitive types -/

namespace Primitive

section Payload

variable {α : Type} {what : Counted} {form : Form} {take : Nat → Reader α} (size : α → Nat)
  (payload : α → Bytes)

/-- Behind a length that was read, what it counts is written as it was read. -/
theorem canonical_readPresent (htake : ∀ {n mid rest a}, take n mid = .ok (a, rest) →
    size a = n ∧ mid = payload a ++ rest) : (Length.readPresent what form >>= take).Canonical
      fun a => Length.write what form (size a) ++ .chunk (.raw (payload a)) := by
  intro bs rest a h
  obtain ⟨n, mid, hlength, hvalue⟩ := Reader.bind_eq_ok.mp h
  obtain ⟨rfl, hmid⟩ := htake hvalue
  exact (Length.respells_of_read (Length.read_of_readPresent hlength)).append (.of_chunk hmid)

/-- The same where null is allowed. -/
theorem canonical_readNullable (htake : ∀ {n mid rest a}, take n mid = .ok (a, rest) →
    size a = n ∧ mid = payload a ++ rest) : (readNullable what form take).Canonical
      (writeNullable what form fun a =>
        Length.write what form (size a) ++ .chunk (.raw (payload a))) := by
  intro bs rest a h
  obtain ⟨length, mid, hlength, hvalue⟩ := Reader.bind_eq_ok.mp h
  cases length with
  | none =>
    cases hvalue
    exact Length.respells_of_readNull hlength
  | some n =>
    obtain ⟨value, htaken, rfl⟩ := Reader.bind_pure_eq_ok.mp hvalue
    obtain ⟨rfl, hmid⟩ := htake htaken
    exact (Length.respells_of_read hlength).append (.of_chunk hmid)

end Payload

/-- **Every primitive value that was read is written for the bytes it was read from**, or for
fewer. -/
theorem canonical_read (p : Primitive) : p.read.Canonical p.write := by
  cases p with
  | uvarint => exact Reader.canonical_uvarint
  | varint => exact Reader.canonical_varint
  | tagBuffer => exact TagBuffer.canonical_read
  | string form => exact canonical_readPresent String.utf8ByteSize textBytes takeText_exact
  | nullableString form => exact canonical_readNullable String.utf8ByteSize textBytes takeText_exact
  | bytes form => exact canonical_readPresent List.length id Reader.take_eq_ok
  | nullableBytes form => exact canonical_readNullable List.length id Reader.take_eq_ok
  | bool | int8 | int16 | int32 | int64 | uuid | messageSet =>
    exact Reader.Exact.canonical (exact_read rfl)

end Primitive

end KafkaWire
