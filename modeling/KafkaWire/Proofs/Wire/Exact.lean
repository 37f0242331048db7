import KafkaWire.Proofs.Wire.Primitive

/-!
# What has been read

The other direction: from a run of a reader that ended well back to the bytes it was given. Two
things can be said of them.

Of every type, the value keeps to the limits that reading checks, so that nothing except a long
text can prevent it from being written again. Of the classic types more is true: each value has
**only one spelling**, so the bytes that were read are those that writing the value would produce.
Compact types lack this property, since a varint may be longer than it has to be.

## Main definitions

* `Primitive.Kind.Readable` — the limits that a value keeps to once it was read
* `Primitive.isClassic` — the types whose values have one spelling only

## Main results

* `Primitive.readable_of_read` — reading keeps to the limits
* `Primitive.fault_write` — what prevents a value within the limits from being written
* `Primitive.exact_read` — classic values are read from what they are written as
-/

namespace KafkaWire

/-! ### Integers -/

namespace Reader

/-- An integer of any width was read from its own bytes if it determines its bits. -/
theorem fixed_exact {α : Type} (width : Nat) (ofBits : Nat → α) (bits : α → Nat)
    (hback : ∀ n, n < byteWeight width → bits (ofBits n) = n) {a : α} {bs rest : Bytes}
    (h : (do return ofBits (ofBigEndian (← take width)) : Reader α) bs = .ok (a, rest)) :
    bs = toBigEndian width (bits a) ++ rest := by
  obtain ⟨taken, mid, htake, hpure⟩ := bind_eq_ok.mp h
  obtain ⟨hlength, rfl⟩ := take_eq_ok htake
  cases hpure
  have hlt : ofBigEndian taken < byteWeight width := hlength ▸ ofBigEndian_lt taken
  rw [hback _ hlt, ← hlength, toBigEndian_ofBigEndian]

theorem int8_exact {n : Int8} {bs rest : Bytes} (h : int8 bs = .ok (n, rest)) :
    bs = (Chunk.int8 n).bytes ++ rest := by
  refine fixed_exact 1 (fun k => (UInt8.ofNat k).toInt8) (·.toUInt8.toNat)
    (fun k hk => ?_) h
  rw [UInt8.toUInt8_toInt8, UInt8.toNat_ofNat']
  exact Nat.mod_eq_of_lt hk

theorem int16_exact {n : Int16} {bs rest : Bytes} (h : int16 bs = .ok (n, rest)) :
    bs = (Chunk.int16 n).bytes ++ rest := by
  refine fixed_exact 2 (fun k => (UInt16.ofNat k).toInt16) (·.toUInt16.toNat)
    (fun k hk => ?_) h
  rw [UInt16.toUInt16_toInt16, UInt16.toNat_ofNat']
  exact Nat.mod_eq_of_lt hk

theorem int32_exact {n : Int32} {bs rest : Bytes} (h : int32 bs = .ok (n, rest)) :
    bs = (Chunk.int32 n).bytes ++ rest := by
  refine fixed_exact 4 (fun k => (UInt32.ofNat k).toInt32) (·.toUInt32.toNat)
    (fun k hk => ?_) h
  rw [UInt32.toUInt32_toInt32, UInt32.toNat_ofNat']
  exact Nat.mod_eq_of_lt hk

theorem int64_exact {n : Int64} {bs rest : Bytes} (h : int64 bs = .ok (n, rest)) :
    bs = (Chunk.int64 n).bytes ++ rest := by
  refine fixed_exact 8 (fun k => (UInt64.ofNat k).toInt64) (·.toUInt64.toNat)
    (fun k hk => ?_) h
  rw [UInt64.toUInt64_toInt64, UInt64.toNat_ofNat']
  exact Nat.mod_eq_of_lt hk

theorem bool_exact {b : Bool} {bs rest : Bytes} (h : bool bs = .ok (b, rest)) :
    bs = (Chunk.int8 (if b then 1 else 0)).bytes ++ rest := by
  obtain ⟨first, mid, hbyte, hmatch⟩ := bind_eq_ok.mp h
  have hbytes : bs = toBigEndian 1 first.toNat ++ mid := by
    refine fixed_exact 1 UInt8.ofNat UInt8.toNat (fun k hk => ?_) hbyte
    rw [UInt8.toNat_ofNat']
    exact Nat.mod_eq_of_lt hk
  split at hmatch
  · cases hmatch
    exact hbytes
  · cases hmatch
    exact hbytes
  · cases hmatch

end Reader

/-! ### Lengths -/

namespace Length

/-- A length that was read is the number in front, and no larger than reading admits. -/
theorem readNumber_of_read {what : Counted} {form : Form} {n : Nat} {bs rest : Bytes}
    (h : read what form bs = .ok (some n, rest)) :
    readNumber what form bs = .ok (some (n : Int), rest) ∧ n ≤ readLimit what := by
  obtain ⟨number, mid, hnumber, h⟩ := Reader.bind_eq_ok.mp h
  cases number with
  | none => cases h
  | some k =>
    by_cases hbad : k < 0 ∨ (readLimit what : Int) < k
    · simp only [hbad, if_true] at h
      obtain ⟨_, _, hthrow, -⟩ := Reader.bind_eq_ok.mp h
      cases hthrow
    · have hk : ((k.toNat : Nat) : Int) = k := Int.toNat_of_nonneg (by omega)
      have hend : n = k.toNat ∧ rest = mid := by
        simp only [hbad, if_false] at h
        split at h
        · obtain ⟨_, mid', hrequire, hpure⟩ := Reader.bind_eq_ok.mp h
          have hmid : mid' = mid := Reader.require_eq_ok hrequire
          cases hpure
          exact ⟨rfl, hmid⟩
        · cases h
          exact ⟨rfl, rfl⟩
      obtain ⟨rfl, rfl⟩ := hend
      rw [hk]
      exact ⟨hnumber, by omega⟩

theorem readNumber_of_readNull {what : Counted} {form : Form} {bs rest : Bytes}
    (h : read what form bs = .ok (none, rest)) :
    readNumber what form bs = .ok (none, rest) := by
  obtain ⟨number, mid, hnumber, h⟩ := Reader.bind_eq_ok.mp h
  cases number with
  | none =>
    cases h
    exact hnumber
  | some k =>
    simp only at h
    split at h
    · obtain ⟨_, _, hthrow, -⟩ := Reader.bind_eq_ok.mp h
      cases hthrow
    · split at h
      · obtain ⟨_, _, -, hpure⟩ := Reader.bind_eq_ok.mp h
        cases hpure
      · cases h

/-- In classic form only one number stands for a length. -/
theorem exact_of_read {what : Counted} {n : Nat} {bs rest : Bytes}
    (h : read what .classic bs = .ok (some n, rest)) :
    ∃ front, (write what .classic n).Writes front ∧ bs = front ++ rest := by
  obtain ⟨hnumber, hn⟩ := readNumber_of_read h
  cases what with
  | text =>
    obtain ⟨m, hm, hnumber⟩ := Reader.bind_pure_eq_ok.mp hnumber
    have hval : m.toInt = n := Option.some.inj (Option.ite_none_left_eq_some.mp hnumber).2
    have hlt : n < 2 ^ 15 := by
      have hm_lt := m.toInt_lt
      omega
    have hback : Int16.ofNat n = m := by
      rw [← Int16.toInt_inj, Int16.toInt_ofNat_of_lt hlt, hval]
    refine ⟨(Chunk.int16 m).bytes, ?_, Reader.int16_exact hm⟩
    unfold write
    simp only [Counted.writeLimit, hback]
    rw [if_neg (by omega)]
    exact Output.writes_chunk.mpr rfl
  | items | data =>
    obtain ⟨m, hm, hnumber⟩ := Reader.bind_pure_eq_ok.mp hnumber
    have hval : m.toInt = n := Option.some.inj (Option.ite_none_left_eq_some.mp hnumber).2
    have hlt : n < 2 ^ 31 := by
      have hm_lt := m.toInt_lt
      omega
    have hback : Int32.ofNat n = m := by
      rw [← Int32.toInt_inj, Int32.toInt_ofNat_of_lt hlt, hval]
    refine ⟨(Chunk.int32 m).bytes, ?_, Reader.int32_exact hm⟩
    unfold write
    simp only [Counted.writeLimit, hback]
    rw [if_neg (by omega)]
    exact Output.writes_chunk.mpr rfl

/-- If a reading is null just for one number, that number was read. -/
theorem eq_of_ite_eq_none {α : Type} [DecidableEq α] {m null : α} {n : Int}
    (h : (if m = null then none else some n) = none) : m = null :=
  Decidable.byContradiction fun hne => nomatch ite_eq_left_iff.mp h hne

theorem exact_of_readNull {what : Counted} {bs rest : Bytes}
    (h : read what .classic bs = .ok (none, rest)) :
    ∃ front, (writeNull what .classic).Writes front ∧ bs = front ++ rest := by
  have hnumber := readNumber_of_readNull h
  cases what with
  | text =>
    obtain ⟨m, hm, hnull⟩ := Reader.bind_pure_eq_ok.mp hnumber
    obtain rfl := eq_of_ite_eq_none hnull
    exact ⟨_, Output.writes_chunk.mpr rfl, Reader.int16_exact hm⟩
  | items | data =>
    obtain ⟨m, hm, hnull⟩ := Reader.bind_pure_eq_ok.mp hnumber
    obtain rfl := eq_of_ite_eq_none hnull
    exact ⟨_, Output.writes_chunk.mpr rfl, Reader.int32_exact hm⟩

theorem read_of_readPresent {what : Counted} {form : Form} {n : Nat} {bs rest : Bytes}
    (h : readPresent what form bs = .ok (n, rest)) : read what form bs = .ok (some n, rest) := by
  obtain ⟨length, mid, hread, h⟩ := Reader.bind_eq_ok.mp h
  cases length with
  | none => cases h
  | some k =>
    cases h
    exact hread

/-- Only a length above the limit cannot be written. -/
theorem fault_write (what : Counted) (form : Form) (n : Nat) : (write what form n).fault =
    if what.writeLimit < n then some (.packetEncoding (.tooLong what n)) else none := by
  unfold write
  by_cases hlimit : what.writeLimit < n
  · rw [if_pos hlimit, if_pos hlimit]
    rfl
  · rw [if_neg hlimit, if_neg hlimit]
    cases form <;> cases what <;> rfl

theorem fault_writeNull (what : Counted) (form : Form) : (writeNull what form).fault = none := by
  cases form <;> cases what <;> rfl

end Length

/-! ### Texts and byte strings -/

namespace Primitive

variable {α : Type}

/-- Bytes that pass for UTF-8 are those of the text they stand for. -/
theorem textBytes_of_fromUTF8 {taken : Bytes} {s : String}
    (h : String.fromUTF8? taken.toByteArray = some s) : textBytes s = taken := by
  unfold String.fromUTF8? at h
  split at h
  · cases h
    show taken.toByteArray.data.toList = taken
    rw [List.data_toByteArray]
  · cases h

theorem takeText_exact {s : String} {n : Nat} {bs rest : Bytes}
    (h : takeText n bs = .ok (s, rest)) : s.utf8ByteSize = n ∧ bs = textBytes s ++ rest := by
  obtain ⟨taken, mid, htake, htext⟩ := Reader.bind_eq_ok.mp h
  obtain ⟨hlength, rfl⟩ := Reader.take_eq_ok htake
  cases hs : String.fromUTF8? taken.toByteArray with
  | none =>
    rw [hs] at htext
    cases htext
  | some s' =>
    rw [hs] at htext
    cases htext
    have hbytes : textBytes s = taken := textBytes_of_fromUTF8 hs
    refine ⟨?_, by rw [hbytes]⟩
    rw [← length_textBytes, hbytes, hlength]

section Payload

variable {what : Counted} {take : Nat → Reader α} (size : α → Nat) (payload : α → Bytes)

/-- A value behind its length was read from that length and from what it counts. -/
theorem exact_readPresent (htake : ∀ {n mid rest a}, take n mid = .ok (a, rest) →
    size a = n ∧ mid = payload a ++ rest) : (Length.readPresent what .classic >>= take).Exact
      fun a => Length.write what .classic (size a) ++ .chunk (.raw (payload a)) := by
  intro bs rest a h
  obtain ⟨n, mid, hlength, hvalue⟩ := Reader.bind_eq_ok.mp h
  obtain ⟨rfl, rfl⟩ := htake hvalue
  obtain ⟨front, hfront, rfl⟩ := Length.exact_of_read (Length.read_of_readPresent hlength)
  refine ⟨front ++ payload a, hfront.append (Output.writes_chunk.mpr rfl), ?_⟩
  rw [List.append_assoc]

/-- The same where null is allowed. -/
theorem exact_readNullable (htake : ∀ {n mid rest a}, take n mid = .ok (a, rest) →
    size a = n ∧ mid = payload a ++ rest) : (readNullable what .classic take).Exact
      (writeNullable what .classic fun a =>
        Length.write what .classic (size a) ++ .chunk (.raw (payload a))) := by
  intro bs rest a h
  obtain ⟨length, mid, hlength, hvalue⟩ := Reader.bind_eq_ok.mp h
  cases length with
  | none =>
    cases hvalue
    exact Length.exact_of_readNull hlength
  | some n =>
    obtain ⟨value, htaken, rfl⟩ := Reader.bind_pure_eq_ok.mp hvalue
    obtain ⟨rfl, rfl⟩ := htake htaken
    obtain ⟨front, hfront, rfl⟩ := Length.exact_of_read hlength
    refine ⟨front ++ payload value, hfront.append (Output.writes_chunk.mpr rfl), ?_⟩
    rw [List.append_assoc]

end Payload

/-- The types whose values have one spelling only: no varint and no compact length is in them. -/
def isClassic : Primitive → Bool
  | .uvarint | .varint | .tagBuffer => false
  | .string form | .nullableString form | .bytes form | .nullableBytes form => form = .classic
  | .bool | .int8 | .int16 | .int32 | .int64 | .uuid | .messageSet => true

/-- **Classic values have one spelling**: they are read from what they are written as. -/
theorem exact_read {p : Primitive} (hp : p.isClassic = true) : p.read.Exact p.write := by
  intro bs rest x h
  cases p with
  | bool => exact ⟨_, Output.writes_chunk.mpr rfl, Reader.bool_exact h⟩
  | int8 => exact ⟨_, Output.writes_chunk.mpr rfl, Reader.int8_exact h⟩
  | int16 => exact ⟨_, Output.writes_chunk.mpr rfl, Reader.int16_exact h⟩
  | int32 => exact ⟨_, Output.writes_chunk.mpr rfl, Reader.int32_exact h⟩
  | int64 => exact ⟨_, Output.writes_chunk.mpr rfl, Reader.int64_exact h⟩
  | uvarint | varint | tagBuffer => cases hp
  | uuid =>
    have hexactly : Reader.takeExactly 16 bs = .ok (x, rest) := h
    have htake : Reader.take 16 bs = .ok (x.val, rest) := by
      rw [Reader.take, Reader.bind_of_ok hexactly, Reader.pure_run]
    exact ⟨x.val, Output.writes_chunk.mpr rfl, (Reader.take_eq_ok htake).2⟩
  | string form =>
    obtain rfl : form = .classic := by simpa [isClassic] using hp
    exact exact_readPresent String.utf8ByteSize textBytes takeText_exact h
  | nullableString form =>
    obtain rfl : form = .classic := by simpa [isClassic] using hp
    exact exact_readNullable String.utf8ByteSize textBytes takeText_exact h
  | bytes form =>
    obtain rfl : form = .classic := by simpa [isClassic] using hp
    exact exact_readPresent List.length id Reader.take_eq_ok h
  | nullableBytes form =>
    obtain rfl : form = .classic := by simpa [isClassic] using hp
    exact exact_readNullable List.length id Reader.take_eq_ok h
  | messageSet => exact exact_readNullable List.length id Reader.take_eq_ok h

/-! ### Limits -/

/-- The limits that a value keeps to once it was read. Texts may be of any length here, since
others can be put in their place. -/
def Kind.Readable : (kind : Kind) → kind.Carrier → Prop
  | .tagBuffer, tags => tags.WithinLimits
  | .bytes, data => data.length ≤ Length.readLimit .data
  | .nullableBytes, data => ∀ bs ∈ data, bs.length ≤ Length.readLimit .data
  | _, _ => True

theorem Kind.Readable.withinLimits {kind : Kind} {x : kind.Carrier} (h : kind.Readable x) :
    kind.WithinLimits x := by
  cases kind with
  | tagBuffer => exact h
  | _ => trivial

theorem length_le_of_readNullable {form : Form} {data : Option Bytes} {bs rest : Bytes}
    (h : readNullable .data form Reader.take bs = .ok (data, rest)) :
    ∀ value ∈ data, value.length ≤ Length.readLimit .data := by
  obtain ⟨length, mid, hlength, hvalue⟩ := Reader.bind_eq_ok.mp h
  cases length with
  | none =>
    cases hvalue
    exact fun _ hmem => nomatch hmem
  | some n =>
    obtain ⟨value, mid', htake, hpure⟩ := Reader.bind_eq_ok.mp hvalue
    cases hpure
    rintro _ ⟨rfl⟩
    rw [(Reader.take_eq_ok htake).1]
    exact (Length.readNumber_of_read hlength).2

/-- **Reading keeps to the limits.** -/
theorem readable_of_read {p : Primitive} {x : p.Carrier} {bs rest : Bytes}
    (h : p.read bs = .ok (x, rest)) : p.kind.Readable x := by
  cases p with
  | tagBuffer => exact TagBuffer.read_sound h
  | bytes form =>
    obtain ⟨n, mid, hlength, htake⟩ := Reader.bind_eq_ok.mp h
    show x.length ≤ Length.readLimit .data
    rw [(Reader.take_eq_ok htake).1]
    exact (Length.readNumber_of_read (Length.read_of_readPresent hlength)).2
  | nullableBytes form => exact length_le_of_readNullable h
  | messageSet => exact length_le_of_readNullable h
  | _ => trivial

/-- The text that a value is, if it is one. -/
def Kind.text? : (kind : Kind) → kind.Carrier → Option String
  | .string, s => some s
  | .nullableString, s => s
  | _, _ => none

/-- The error of writing a text that is too long, in either form. -/
def textFault (s : String) : Option Error :=
  if Counted.text.writeLimit < s.utf8ByteSize then
    some (.packetEncoding (.tooLong .text s.utf8ByteSize))
  else none

theorem textFault_eq_none {s : String} :
    textFault s = none ↔ s.utf8ByteSize ≤ Counted.text.writeLimit := by
  rw [textFault]
  split <;> simp <;> omega

theorem textFault_eq_some {s : String} {e : Error} : textFault s = some e ↔
    Counted.text.writeLimit < s.utf8ByteSize ∧
      e = .packetEncoding (.tooLong .text s.utf8ByteSize) := by
  rw [textFault]
  split <;> simp [*, eq_comm]

theorem fault_writeText (form : Form) (s : String) : (writeText form s).fault = textFault s := by
  rw [writeText, Output.fault_append, Length.fault_write, textFault]
  exact Option.or_none

theorem fault_writeData {form : Form} {data : Bytes} (h : data.length ≤ Length.readLimit .data) :
    (writeData form data).fault = none := by
  have hlimit : ¬ Counted.data.writeLimit < data.length := Nat.not_lt.mpr h
  rw [writeData, Output.fault_append, Length.fault_write, if_neg hlimit]
  rfl

theorem fault_writeNullable {what : Counted} {form : Form} {write : α → Output} {a : Option α}
    {fault : α → Option Error} (h : ∀ value ∈ a, (write value).fault = fault value) :
    (writeNullable what form write a).fault = a.bind fault := by
  cases a with
  | none => exact Length.fault_writeNull what form
  | some value => exact h value rfl

/-- **Within the limits only a long text cannot be written.** -/
theorem fault_write {p : Primitive} {x : p.Carrier} (hx : p.kind.Readable x) :
    (p.write x).fault = (p.kind.text? x).bind textFault := by
  have hdata : ∀ {form : Form} {data : Option Bytes},
      (∀ bs ∈ data, bs.length ≤ Length.readLimit .data) →
      (writeNullable .data form (writeData form) data).fault = none := by
    intro form data h
    rw [fault_writeNullable fun value hmem => fault_writeData (h value hmem)]
    cases data <;> rfl
  cases p with
  | bool | int8 | int16 | int32 | int64 | uvarint | varint | uuid => rfl
  | string form => exact fault_writeText form x
  | nullableString form => exact fault_writeNullable fun s _ => fault_writeText form s
  | bytes form => exact fault_writeData hx
  | nullableBytes form => exact hdata hx
  | messageSet => exact hdata hx
  | tagBuffer => exact TagBuffer.fault_write x

end Primitive

end KafkaWire
