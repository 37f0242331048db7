import KafkaWire.Proofs.Wire.Canonical

/-!
# How tag buffers are spelled

Carrying the data of a field uninterpreted is meant to give back the bytes it was read from. The
data come back, and so does the order of the fields, since only ascending tags are read. What may
not come back are the numbers between them: the count, the tags and the sizes are varints, and a
varint is read in any of its spellings and written in the shortest one.

So a tag buffer that was read is a choice of a spelling for each of its numbers, and **writing it
again gives the same bytes exactly if each choice was the shortest**.

## Main definitions

* `TagBuffer.Spelling` — a tag buffer with a spelling of each of its numbers
* `TagBuffer.Spelling.IsShortest` — none of them has a superfluous digit

## Main results

* `TagBuffer.exists_spelling_of_read` — whatever is read is a spelling
* `TagBuffer.Spelling.write_append_eq_iff` — which spellings are written
* `TagBuffer.respelled_of_read` — what becomes of the bytes that were read
-/

namespace KafkaWire

/-- A shortest spelling stands where another one stood only if it is the same. -/
theorem Reader.Spells.bytes_append_eq_iff {bs rest rest' : Bytes} {n : UInt64}
    (h : Reader.uvarint.Spells bs n) :
    Varint.bytes n ++ rest = bs ++ rest' ↔ bs = Varint.bytes n ∧ rest = rest' := by
  rw [Reader.Spells.append_inj (Reader.uvarint_append n) h, eq_comm]

namespace TagBuffer

/-! ### Fields -/

/-- A field as it stands on the wire: a spelling of its tag, one of its size, and its data. -/
structure FieldSpelling where
  field : TagField
  tag : Bytes
  size : Bytes
  tag_spells : Reader.uvarint.Spells tag field.tag.toUInt64
  size_spells : Reader.uvarint.Spells size (UInt64.ofNat field.data.length)

namespace FieldSpelling

/-- The bytes on the wire. -/
def bytes (s : FieldSpelling) : Bytes := s.tag ++ (s.size ++ s.field.data)

/-- Tag and size have no superfluous digits. -/
def IsShortest (s : FieldSpelling) : Prop :=
  s.tag = Varint.bytes s.field.tag.toUInt64 ∧
    s.size = Varint.bytes (UInt64.ofNat s.field.data.length)

theorem write_append_eq_iff (s : FieldSpelling) {out rest rest' : Bytes}
    (h : (writeField s.field).Writes out) :
    out ++ rest = s.bytes ++ rest' ↔ s.IsShortest ∧ rest = rest' := by
  rw [writes_writeField h, bytes, List.append_assoc, List.append_assoc, List.append_assoc,
    List.append_assoc, s.tag_spells.bytes_append_eq_iff, s.size_spells.bytes_append_eq_iff,
    List.append_cancel_left_eq, IsShortest, and_assoc]

theorem forEach_append_eq_iff (fields : List FieldSpelling) {out rest rest' : Bytes}
    (h : (Output.forEach writeField (fields.map (·.field))).Writes out) :
    out ++ rest = fields.flatMap bytes ++ rest' ↔ (∀ s ∈ fields, s.IsShortest) ∧ rest = rest' := by
  induction fields generalizing out with
  | nil =>
    obtain rfl := Output.writes_empty.mp h
    simp
  | cons s fields ih =>
    rw [List.map_cons, Output.forEach_cons, Output.writes_append] at h
    obtain ⟨front, back, hfront, hback, rfl⟩ := h
    rw [List.flatMap_cons, List.append_assoc, List.append_assoc, s.write_append_eq_iff hfront,
      ih hback, List.forall_mem_cons, and_assoc]

end FieldSpelling

/-- A field that was read is spelled by the bytes it was read from. -/
theorem exists_spelling_of_readField {last : Option UInt32} {field : TagField} {bs rest : Bytes}
    (h : readField last bs = .ok (field, rest)) :
    ∃ s : FieldSpelling, s.field = field ∧ bs = s.bytes ++ rest := by
  obtain ⟨length, mid, mid', htag, hsize, hdata, -⟩ := readField_eq_ok h
  obtain ⟨hlength, rfl⟩ := Reader.take_eq_ok hdata
  obtain ⟨tag, rfl, tag_spells⟩ :=
    Reader.exists_spells_of_uvarint (Reader.uvarint_of_uvarint32 htag)
  obtain ⟨size, rfl, size_spells⟩ :=
    Reader.exists_spells_of_uvarint (Reader.uvarint_of_uvarint32 hsize)
  have hsame : UInt64.ofNat field.data.length = length.toUInt64 := by
    rw [hlength]
    exact UInt64.ofNat_uInt32ToNat length
  rw [← hsame] at size_spells
  refine ⟨⟨field, tag, size, tag_spells, size_spells⟩, rfl, ?_⟩
  simp only [FieldSpelling.bytes, List.append_assoc]

theorem exists_spelling_of_readFieldsInto {n : Nat} {done fields : List TagField}
    {bs rest : Bytes} (h : readFieldsInto n done bs = .ok (fields, rest)) :
    ∃ spelled : List FieldSpelling, fields = done.reverse ++ spelled.map (·.field) ∧
      spelled.length = n ∧ bs = spelled.flatMap FieldSpelling.bytes ++ rest := by
  induction n generalizing done bs with
  | zero =>
    cases h
    exact ⟨[], (List.append_nil _).symm, rfl, rfl⟩
  | succ n ih =>
    obtain ⟨field, mid, hfield, hrun⟩ := readFieldsInto_succ_eq_ok h
    obtain ⟨spelled, rfl, rfl, rfl⟩ := ih hrun
    obtain ⟨s, rfl, rfl⟩ := exists_spelling_of_readField hfield
    refine ⟨s :: spelled, by simp, rfl, ?_⟩
    rw [List.flatMap_cons, List.append_assoc]

/-! ### Buffers -/

/-- A tag buffer as it stands on the wire: a spelling of the number of its fields, and the
fields. -/
structure Spelling where
  count : Bytes
  fields : List FieldSpelling
  count_spells : Reader.uvarint.Spells count (UInt64.ofNat fields.length)

namespace Spelling

/-- The buffer that is spelled. -/
def buffer (s : Spelling) : TagBuffer := ⟨s.fields.map (·.field)⟩

/-- The bytes on the wire. -/
def bytes (s : Spelling) : Bytes := s.count ++ s.fields.flatMap FieldSpelling.bytes

/-- No number of the buffer has superfluous digits. -/
def IsShortest (s : Spelling) : Prop :=
  s.count = Varint.bytes (UInt64.ofNat s.fields.length) ∧ ∀ field ∈ s.fields, field.IsShortest

/-- **A spelling is written exactly if it is the shortest.** -/
theorem write_append_eq_iff (s : Spelling) {out : Bytes} (h : s.buffer.write.Writes out)
    (rest : Bytes) : out ++ rest = s.bytes ++ rest ↔ s.IsShortest := by
  obtain ⟨front, back, hcount, hfields, rfl⟩ := Output.writes_append.mp h
  obtain rfl := Output.writes_chunk.mp hcount
  have hlength : s.buffer.fields.length = s.fields.length := List.length_map _
  rw [Chunk.bytes, hlength, bytes, List.append_assoc, List.append_assoc,
    s.count_spells.bytes_append_eq_iff, FieldSpelling.forEach_append_eq_iff s.fields hfields,
    IsShortest]
  simp

end Spelling

/-- **Whatever is read is a spelling** of the buffer that is returned. -/
theorem exists_spelling_of_read {t : TagBuffer} {bs rest : Bytes} (h : read bs = .ok (t, rest)) :
    ∃ s : Spelling, s.buffer = t ∧ bs = s.bytes ++ rest := by
  obtain ⟨n, mid, hcount, -, hfields⟩ := read_eq_ok h
  obtain ⟨count, rfl, count_spells⟩ := Reader.exists_spells_of_uvarint hcount
  obtain ⟨spelled, hspelled, hlength, rfl⟩ := exists_spelling_of_readFieldsInto hfields
  have hsame : UInt64.ofNat spelled.length = n := by
    rw [hlength]
    exact UInt64.ofNat_toNat
  rw [← hsame] at count_spells
  refine ⟨⟨count, spelled, count_spells⟩, ?_, (List.append_assoc _ _ _).symm⟩
  show TagBuffer.mk (spelled.map (·.field)) = t
  rw [← List.nil_append (spelled.map (·.field)), ← List.reverse_nil, ← hspelled]

/-- **What becomes of the bytes a tag buffer was read from.** They spell its numbers and hold its
data, and writing it gives them back exactly if no number has superfluous digits. Otherwise the
bytes written are fewer. Either way they are read as the same buffer. -/
theorem respelled_of_read {t : TagBuffer} {bs rest : Bytes} (h : read bs = .ok (t, rest)) :
    ∃ s : Spelling, s.buffer = t ∧ bs = s.bytes ++ rest ∧
      ∃ out, t.write.encode = .ok out ∧ (out ++ rest = bs ↔ s.IsShortest) ∧
        (¬ s.IsShortest → out.length < s.bytes.length) ∧ read (out ++ rest) = .ok (t, rest) := by
  have hwrites : t.write.Writes t.write.bytes := ⟨fault_write t, rfl⟩
  have hback := read_write (read_sound h) hwrites rest
  obtain ⟨front, hfront, hshorter⟩ := canonical_read h
  obtain ⟨s, rfl, rfl⟩ := exists_spelling_of_read h
  have hiff := s.write_append_eq_iff hwrites rest
  refine ⟨s, rfl, rfl, _, Output.encode_eq_ok.mpr hwrites, hiff, fun hlong => ?_, hback⟩
  obtain rfl := List.append_cancel_right hfront
  rcases hshorter _ hwrites with heq | hlt
  · rw [heq] at hiff
    exact absurd (hiff.mp rfl) hlong
  · exact hlt

/-- One field, with a superfluous digit in the count and in the size. -/
theorem respelled_of_read_padded :
    let bs : Bytes := [0x81, 0x00, 5, 0x82, 0x00, 7, 8, 9]
    let t : TagBuffer := ⟨[⟨5, [7, 8]⟩]⟩
    read bs = .ok (t, [9]) ∧
      ∃ s : Spelling, s.buffer = t ∧ bs = s.bytes ++ [9] ∧ ¬ s.IsShortest ∧
        t.write.encode = .ok [1, 5, 2, 7, 8] ∧ read [1, 5, 2, 7, 8, 9] = .ok (t, [9]) := by
  intro bs t
  have hread : read bs = .ok (t, [9]) := rfl
  have hencode : t.write.encode = .ok [1, 5, 2, 7, 8] := rfl
  obtain ⟨s, hbuffer, hbytes, out, hout, hiff, -, hback⟩ := respelled_of_read hread
  obtain rfl := Except.ok.inj (hencode.symm.trans hout)
  have hchanged : [1, 5, 2, 7, 8] ++ [9] ≠ bs := by decide
  exact ⟨hread, s, hbuffer, hbytes, mt hiff.mpr hchanged, hencode, hback⟩

/-- No fields, counted in two bytes: not the bytes that writing gives. -/
theorem not_write_of_read_zero : ¬ ∀ bs t rest, read bs = .ok (t, rest) →
    ∃ out, t.write.encode = .ok out ∧ out ++ rest = bs := by
  intro hsame
  have hread : read [0x80, 0x00] = .ok ({}, []) := rfl
  have hencode : ({} : TagBuffer).write.encode = .ok [0x00] := rfl
  obtain ⟨out, hout, hbytes⟩ := hsame [0x80, 0x00] {} [] hread
  obtain rfl := Except.ok.inj (hencode.symm.trans hout)
  cases hbytes

end TagBuffer

end KafkaWire
