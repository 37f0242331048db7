import KafkaWire.Proofs.Wire.TagBuffer
import KafkaWire.Wire.Primitive

/-!
# Primitive values come back

Each primitive type in turn: what was written is read back, whatever follows it. Integers are
handled once for every width, texts and byte strings once for both forms of their lengths.

A length is read under stricter conditions than it is written: the count of an array must not
exceed `maxItems`, nor the number of bytes that are left. Both appear as hypotheses here, and it
is for whoever writes the elements to show that they take enough bytes.

## Main definitions

* `Primitive.Kind.WithinLimits` — the values that survive being read

## Main results

* `Length.read_write`, `Length.read_write_items` — a length, under the conditions above
* `Primitive.read_write` — every primitive value within the limits
* `Primitive.not_writes_nil` — and none of them is written as no bytes
-/

namespace KafkaWire

/-! ### Integers -/

/-- A length that fits 31 bits has no sign. -/
theorem Chunk.bytes_int32_ofNat {n : Nat} (h : n < 0x80000000) :
    (Chunk.int32 (Int32.ofNat n)).bytes = toBigEndian 4 n := by
  have hbits : (Int32.ofNat n).toUInt32.toNat = n := by
    show (UInt32.ofNat n).toNat = n
    rw [UInt32.toNat_ofNat']
    omega
  rw [Chunk.bytes, hbits]

namespace Reader

/-- An integer of any width comes back if its bits determine it. -/
theorem fixed_append {α : Type} (width : Nat) (ofBits : Nat → α) (bits : α → Nat)
    (hback : ∀ a, ofBits (bits a % byteWeight width) = a) (a : α) (rest : Bytes) :
    (do return ofBits (ofBigEndian (← take width)) : Reader α)
      (toBigEndian width (bits a) ++ rest) = .ok (a, rest) := by
  rw [bind_of_ok (take_append (length_toBigEndian width _) rest), pure_run,
    ofBigEndian_toBigEndian, hback]

theorem int8_append (n : Int8) (rest : Bytes) :
    int8 ((Chunk.int8 n).bytes ++ rest) = .ok (n, rest) := by
  refine fixed_append 1 (fun k => (UInt8.ofNat k).toInt8) (·.toUInt8.toNat)
    (fun m => ?_) n rest
  have hbits : m.toUInt8.toNat % byteWeight 1 = m.toUInt8.toNat :=
    Nat.mod_eq_of_lt m.toUInt8.toNat_lt
  rw [hbits, UInt8.ofNat_toNat, Int8.toInt8_toUInt8]

theorem int16_append (n : Int16) (rest : Bytes) :
    int16 ((Chunk.int16 n).bytes ++ rest) = .ok (n, rest) := by
  refine fixed_append 2 (fun k => (UInt16.ofNat k).toInt16) (·.toUInt16.toNat)
    (fun m => ?_) n rest
  have hbits : m.toUInt16.toNat % byteWeight 2 = m.toUInt16.toNat :=
    Nat.mod_eq_of_lt m.toUInt16.toNat_lt
  rw [hbits, UInt16.ofNat_toNat, Int16.toInt16_toUInt16]

theorem int32_append (n : Int32) (rest : Bytes) :
    int32 ((Chunk.int32 n).bytes ++ rest) = .ok (n, rest) := by
  refine fixed_append 4 (fun k => (UInt32.ofNat k).toInt32) (·.toUInt32.toNat)
    (fun m => ?_) n rest
  have hbits : m.toUInt32.toNat % byteWeight 4 = m.toUInt32.toNat :=
    Nat.mod_eq_of_lt m.toUInt32.toNat_lt
  rw [hbits, UInt32.ofNat_toNat, Int32.toInt32_toUInt32]

theorem int64_append (n : Int64) (rest : Bytes) :
    int64 ((Chunk.int64 n).bytes ++ rest) = .ok (n, rest) := by
  refine fixed_append 8 (fun k => (UInt64.ofNat k).toInt64) (·.toUInt64.toNat)
    (fun m => ?_) n rest
  have hbits : m.toUInt64.toNat % byteWeight 8 = m.toUInt64.toNat :=
    Nat.mod_eq_of_lt m.toUInt64.toNat_lt
  rw [hbits, UInt64.ofNat_toNat, Int64.toInt64_toUInt64]

theorem bool_append (b : Bool) (rest : Bytes) :
    bool ((Chunk.int8 (if b then 1 else 0)).bytes ++ rest) = .ok (b, rest) := by
  cases b <;> rfl

end Reader

/-! ### Lengths -/

namespace Length

theorem le_writeLimit_of_writes {what : Counted} {form : Form} {n : Nat} {bs : Bytes}
    (h : (write what form n).Writes bs) : n ≤ what.writeLimit := by
  unfold write at h
  split at h
  · exact absurd h Output.not_writes_fail
  · omega

/-- The number in front of a value is the one that was written, in either form. -/
theorem readNumber_write {what : Counted} {form : Form} {n : Nat} {bs : Bytes}
    (h : (write what form n).Writes bs) (rest : Bytes) :
    readNumber what form (bs ++ rest) = .ok (some (n : Int), rest) := by
  have hn := le_writeLimit_of_writes h
  unfold write at h
  rw [if_neg (Nat.not_lt.mpr hn)] at h
  cases form with
  | compact =>
    have hlt : n + 1 < 2 ^ 64 := by
      cases what <;> simp only [Counted.writeLimit] at hn <;> omega
    have hval : (UInt64.ofNat (n + 1)).toNat = n + 1 := by
      rw [UInt64.toNat_ofNat', Nat.mod_eq_of_lt hlt]
    have hne : UInt64.ofNat (n + 1) ≠ 0 := by
      intro h0
      rw [h0] at hval
      exact absurd hval (by simp)
    obtain rfl := Output.writes_chunk.mp h
    simp only [readNumber]
    rw [Chunk.bytes, Reader.bind_of_ok (Reader.uvarint_append _ rest), if_neg hne, hval,
      Nat.add_sub_cancel, Reader.pure_run]
  | classic =>
    cases what with
    | text =>
      have hval : (Int16.ofNat n).toInt = n := by
        refine Int16.toInt_ofNat_of_lt ?_
        simp only [Counted.writeLimit] at hn
        omega
      have hne : Int16.ofNat n ≠ -1 := by
        intro h0
        rw [h0] at hval
        exact absurd hval (by simp)
      obtain rfl := Output.writes_chunk.mp h
      simp only [readNumber]
      rw [Reader.bind_of_ok (Reader.int16_append _ rest), if_neg hne, hval, Reader.pure_run]
    | items | data =>
      have hval : (Int32.ofNat n).toInt = n := by
        refine Int32.toInt_ofNat_of_lt ?_
        simp only [Counted.writeLimit] at hn
        omega
      have hne : Int32.ofNat n ≠ -1 := by
        intro h0
        rw [h0] at hval
        exact absurd hval (by simp)
      obtain rfl := Output.writes_chunk.mp h
      simp only [readNumber]
      rw [Reader.bind_of_ok (Reader.int32_append _ rest), if_neg hne, hval, Reader.pure_run]

theorem readNumber_writeNull {what : Counted} {form : Form} {bs : Bytes}
    (h : (writeNull what form).Writes bs) (rest : Bytes) :
    readNumber what form (bs ++ rest) = .ok (none, rest) := by
  cases form with
  | compact =>
    obtain rfl := Output.writes_chunk.mp h
    simp only [readNumber]
    rw [Chunk.bytes, Reader.bind_of_ok (Reader.uvarint_append 0 rest), if_pos rfl,
      Reader.pure_run]
  | classic =>
    cases what <;> obtain rfl := Output.writes_chunk.mp h <;> simp only [readNumber]
    · rw [Reader.bind_of_ok (Reader.int32_append (-1) rest), if_pos rfl, Reader.pure_run]
    · rw [Reader.bind_of_ok (Reader.int16_append (-1) rest), if_pos rfl, Reader.pure_run]
    · rw [Reader.bind_of_ok (Reader.int32_append (-1) rest), if_pos rfl, Reader.pure_run]

/-- **A length comes back** if reading admits it, and for the count of an array if that many
bytes follow. -/
theorem read_write {what : Counted} {form : Form} {n : Nat} {bs rest : Bytes}
    (h : (write what form n).Writes bs) (hn : n ≤ readLimit what)
    (hrest : what = .items → n ≤ rest.length) :
    read what form (bs ++ rest) = .ok (some n, rest) := by
  have hok : ¬ ((n : Int) < 0 ∨ (readLimit what : Int) < n) := by omega
  rw [read, Reader.bind_of_ok (readNumber_write h rest)]
  simp only [hok, if_false, Int.toNat_natCast]
  split
  · rename_i hitems
    rw [Reader.bind_of_ok (Reader.require_of_le (hrest hitems)), Reader.pure_run]
  · rw [Reader.pure_run]

/-- Texts and byte strings are admitted as long as they can be written. -/
theorem read_write_of_ne_items {what : Counted} {form : Form} {n : Nat} {bs : Bytes}
    (hwhat : what ≠ .items) (h : (write what form n).Writes bs) (rest : Bytes) :
    read what form (bs ++ rest) = .ok (some n, rest) := by
  refine read_write h ?_ fun hitems => absurd hitems hwhat
  have hn := le_writeLimit_of_writes h
  cases what with
  | items => exact absurd rfl hwhat
  | text =>
    simp only [Counted.writeLimit, readLimit] at hn ⊢
    omega
  | data => exact hn

/-- The count in front of elements that all leave a trace is admitted: as many bytes follow as
the reader demands, one for each element. -/
theorem read_write_items {α : Type} {form : Form} {write : α → Output} {xs : List α}
    {front back : Bytes} (htrace : ∀ x ∈ xs, ¬ (write x).Writes []) (hlen : xs.length ≤ maxItems)
    (hcount : (Length.write .items form xs.length).Writes front)
    (hxs : (Output.forEach write xs).Writes back) (rest : Bytes) :
    read .items form (front ++ (back ++ rest)) = .ok (some xs.length, back ++ rest) := by
  refine read_write hcount hlen fun _ => ?_
  have hback := Output.length_le_of_writes_forEach htrace hxs
  rw [List.length_append]
  omega

theorem read_writeNull {what : Counted} {form : Form} {bs : Bytes}
    (h : (writeNull what form).Writes bs) (rest : Bytes) :
    read what form (bs ++ rest) = .ok (none, rest) := by
  rw [read, Reader.bind_of_ok (readNumber_writeNull h rest)]
  rfl

theorem not_writes_nil (what : Counted) (form : Form) (n : Nat) :
    ¬ (write what form n).Writes [] := by
  intro h
  unfold write at h
  split at h
  · exact Output.not_writes_fail h
  · split at h <;> have hbytes := congrArg List.length (Output.writes_chunk.mp h)
    · exact Varint.bytes_ne_nil _ (List.length_eq_zero_iff.mp hbytes)
    · simp [Chunk.bytes] at hbytes
    · simp [Chunk.bytes] at hbytes

theorem not_writeNull_nil (what : Counted) (form : Form) : ¬ (writeNull what form).Writes [] := by
  intro h
  unfold writeNull at h
  split at h <;> have hbytes := congrArg List.length (Output.writes_chunk.mp h)
  · exact Varint.bytes_ne_nil _ (List.length_eq_zero_iff.mp hbytes)
  · simp [Chunk.bytes] at hbytes
  · simp [Chunk.bytes] at hbytes

end Length

/-! ### Texts and byte strings -/

namespace Primitive

variable {α : Type}

@[simp] theorem length_textBytes (s : String) : (textBytes s).length = s.utf8ByteSize := rfl

@[simp] theorem toByteArray_textBytes (s : String) :
    (textBytes s).toByteArray = s.toByteArray := by
  apply ByteArray.ext
  rw [List.data_toByteArray]
  rfl

theorem takeText_append {s : String} {n : Nat} (hn : s.utf8ByteSize = n) (rest : Bytes) :
    takeText n (textBytes s ++ rest) = .ok (s, rest) := by
  have hvalid : String.fromUTF8? s.toByteArray = some s := by
    rw [String.fromUTF8?, dif_pos s.isValidUTF8]
    rfl
  rw [takeText, Reader.bind_of_ok (Reader.take_append ((length_textBytes s).trans hn) rest),
    toByteArray_textBytes, hvalid]
  rfl

/-- A value behind its length: what the length counts is taken, and comes back. -/
theorem readPresent_write {what : Counted} {form : Form} {n : Nat} {front payload : Bytes}
    {take : Nat → Reader α} {a : α} (hwhat : what ≠ .items)
    (h : (Length.write what form n).Writes front)
    (htake : ∀ rest, take n (payload ++ rest) = .ok (a, rest)) (rest : Bytes) :
    (Length.readPresent what form >>= take) (front ++ payload ++ rest) = .ok (a, rest) := by
  have hpresent : Length.readPresent what form (front ++ (payload ++ rest)) =
      .ok (n, payload ++ rest) := by
    rw [Length.readPresent, Reader.bind_of_ok (Length.read_write_of_ne_items hwhat h _)]
    rfl
  rw [List.append_assoc, Reader.bind_of_ok hpresent, htake]

/-- The same where null is allowed, for a value that is there. -/
theorem readNullable_write {what : Counted} {form : Form} {n : Nat} {front payload : Bytes}
    {take : Nat → Reader α} {a : α} (hwhat : what ≠ .items)
    (h : (Length.write what form n).Writes front)
    (htake : ∀ rest, take n (payload ++ rest) = .ok (a, rest)) (rest : Bytes) :
    readNullable what form take (front ++ payload ++ rest) = .ok (some a, rest) := by
  rw [List.append_assoc, readNullable,
    Reader.bind_of_ok (Length.read_write_of_ne_items hwhat h _)]
  show (take n >>= fun a => pure (some a)) (payload ++ rest) = _
  rw [Reader.bind_of_ok (htake rest), Reader.pure_run]

theorem readNullable_writeNull {what : Counted} {form : Form} {bs : Bytes}
    (take : Nat → Reader α) (h : (Length.writeNull what form).Writes bs) (rest : Bytes) :
    readNullable what form take (bs ++ rest) = .ok (none, rest) := by
  rw [readNullable, Reader.bind_of_ok (Length.read_writeNull h rest)]
  rfl

/-! #### Texts -/

theorem read_writeText {form : Form} {s : String} {bs : Bytes} (h : (writeText form s).Writes bs)
    (rest : Bytes) : (Primitive.string form).read (bs ++ rest) = .ok (s, rest) := by
  obtain ⟨front, back, hlength, hback, rfl⟩ := Output.writes_append.mp h
  obtain rfl := Output.writes_chunk.mp hback
  exact readPresent_write (by decide) hlength (takeText_append rfl) rest

theorem readNullable_writeText {form : Form} {s : Option String} {bs : Bytes}
    (h : (writeNullable .text form (writeText form) s).Writes bs) (rest : Bytes) :
    (Primitive.nullableString form).read (bs ++ rest) = .ok (s, rest) := by
  cases s with
  | none => exact readNullable_writeNull takeText h rest
  | some s =>
    obtain ⟨front, back, hlength, hback, rfl⟩ := Output.writes_append.mp h
    obtain rfl := Output.writes_chunk.mp hback
    exact readNullable_write (by decide) hlength (takeText_append rfl) rest

/-! #### Byte strings -/

theorem read_writeData {form : Form} {data bs : Bytes} (h : (writeData form data).Writes bs)
    (rest : Bytes) : (Primitive.bytes form).read (bs ++ rest) = .ok (data, rest) := by
  obtain ⟨front, back, hlength, hback, rfl⟩ := Output.writes_append.mp h
  obtain rfl := Output.writes_chunk.mp hback
  exact readPresent_write (by decide) hlength (Reader.take_append rfl) rest

theorem readNullable_writeData {form : Form} {data : Option Bytes} {bs : Bytes}
    (h : (writeNullable .data form (writeData form) data).Writes bs) (rest : Bytes) :
    readNullable .data form Reader.take (bs ++ rest) = .ok (data, rest) := by
  cases data with
  | none => exact readNullable_writeNull Reader.take h rest
  | some data =>
    obtain ⟨front, back, hlength, hback, rfl⟩ := Output.writes_append.mp h
    obtain rfl := Output.writes_chunk.mp hback
    exact readNullable_write (by decide) hlength (Reader.take_append rfl) rest

/-! ### All primitive types -/

/-- The values of a kind that survive being read: all of them, but for tag buffers. -/
def Kind.WithinLimits : (kind : Kind) → kind.Carrier → Prop
  | .tagBuffer, tags => tags.WithinLimits
  | _, _ => True

instance : (kind : Kind) → (x : kind.Carrier) → Decidable (kind.WithinLimits x)
  | .tagBuffer, tags => inferInstanceAs (Decidable tags.WithinLimits)
  | .bool, _ | .int8, _ | .int16, _ | .int32, _ | .int64, _ | .uvarint, _ | .varint, _
  | .uuid, _ | .string, _ | .nullableString, _ | .bytes, _ | .nullableBytes, _ => isTrue trivial

/-- **A primitive value comes back.** -/
theorem read_write {p : Primitive} {x : p.Carrier} {bs : Bytes} (hx : p.kind.WithinLimits x)
    (h : (p.write x).Writes bs) (rest : Bytes) : p.read (bs ++ rest) = .ok (x, rest) := by
  cases p with
  | bool =>
    obtain rfl := Output.writes_chunk.mp h
    exact Reader.bool_append x rest
  | int8 =>
    obtain rfl := Output.writes_chunk.mp h
    exact Reader.int8_append x rest
  | int16 =>
    obtain rfl := Output.writes_chunk.mp h
    exact Reader.int16_append x rest
  | int32 =>
    obtain rfl := Output.writes_chunk.mp h
    exact Reader.int32_append x rest
  | int64 =>
    obtain rfl := Output.writes_chunk.mp h
    exact Reader.int64_append x rest
  | uvarint =>
    obtain rfl := Output.writes_chunk.mp h
    exact Reader.uvarint_append x rest
  | varint =>
    obtain rfl := Output.writes_chunk.mp h
    exact Reader.varint_append x rest
  | uuid =>
    obtain rfl := Output.writes_chunk.mp h
    exact Reader.takeExactly_append x.property rest
  | string form => exact read_writeText h rest
  | nullableString form => exact readNullable_writeText h rest
  | bytes form => exact read_writeData h rest
  | nullableBytes form => exact readNullable_writeData h rest
  | messageSet => exact readNullable_writeData h rest
  | tagBuffer => exact TagBuffer.read_write hx h rest

/-- A value with a length, or the mark in its place, leaves a trace. -/
theorem not_writes_nil_of_length {what : Counted} {form : Form} {n : Nat} {payload : Output} :
    ¬ (Length.write what form n ++ payload).Writes [] := by
  intro h
  obtain ⟨front, back, hlength, _, hnil⟩ := Output.writes_append.mp h
  obtain ⟨rfl, -⟩ := List.append_eq_nil_iff.mp hnil
  exact Length.not_writes_nil what form n hlength

/-- **Every primitive value takes at least a byte.** -/
theorem not_writes_nil (p : Primitive) (x : p.Carrier) : ¬ (p.write x).Writes [] := by
  intro h
  cases p with
  | bool | int8 | int16 | int32 | int64 =>
    have hbytes := congrArg List.length (Output.writes_chunk.mp h)
    simp [Chunk.bytes] at hbytes
  | uvarint | varint => exact Varint.bytes_ne_nil _ (Output.writes_chunk.mp h)
  | uuid =>
    have hbytes := congrArg List.length (Output.writes_chunk.mp h)
    simp [Chunk.bytes, x.property] at hbytes
  | string form | bytes form => exact not_writes_nil_of_length h
  | nullableString form | nullableBytes form =>
    cases x with
    | none => exact Length.not_writeNull_nil _ form h
    | some x => exact not_writes_nil_of_length h
  | messageSet =>
    cases x with
    | none => exact Length.not_writeNull_nil .data .classic h
    | some x => exact not_writes_nil_of_length h
  | tagBuffer => exact TagBuffer.not_writes_nil x h

end Primitive

end KafkaWire
