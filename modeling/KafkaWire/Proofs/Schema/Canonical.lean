import KafkaWire.Proofs.Schema.Exact
import KafkaWire.Proofs.Wire.Canonical

/-!
# Encoding again what was decoded

A buffer that a schema accepts need not be one that encoding produces: counts, lengths, tags and
sizes may be spelled with superfluous zeros at any depth. Decoding forgets how they were spelled,
so encoding again picks the shortest spelling of each. This is the only difference. The buffer
that results is the canonical one for the struct, it is **never longer** than the one that was
decoded, and a buffer of the same length was canonical all along.

The struct that was decoded fits its schema, so no check of the encoder against the schema can
fail. What may fail is a single thing, the limit on texts, which only the encoder imposes.

## Main results

* `FieldType.canonical_read` — values of a type are written for the bytes they were read from
* `Schema.canonical_of_decode` — the canonical spelling of an accepted buffer
* `Schema.tooLong_of_encode_eq_error` — the one reason why there may be none
-/

namespace KafkaWire

open Output (Respells)

/-! ### Fields and structs -/

theorem Field.canonical_read {field : Field}
    (h : field.type.read.Canonical (field.type.write field.name)) :
    field.read.Canonical field.write := by
  intro bs rest v hv
  rw [read_eq] at hv
  rw [write_eq]
  exact h hv

/-- Fields are written again in a row if each of them is. -/
theorem Field.canonical_readEach {fields : List Field}
    (hfield : ∀ field ∈ fields, field.read.Canonical field.write) :
    (readEach fields).Canonical (writeEach fields) := by
  intro bs rest values h
  induction fields generalizing bs values with
  | nil =>
    cases h
    exact .of_empty
  | cons field fields ih =>
    rw [readEach] at h
    obtain ⟨v, mid, hv, hread⟩ := Reader.bind_eq_ok.mp h
    obtain ⟨vs, hvs, rfl⟩ := Reader.bind_pure_eq_ok.mp hread
    have hhead : (field.write v).Respells bs mid := hfield field List.mem_cons_self hv
    have htail : (writeEach fields vs).Respells mid rest :=
      ih (fun g hg => hfield g (List.mem_cons_of_mem field hg)) hvs
    rw [writeEach]
    exact hhead.append htail

theorem Schema.canonical_of_fields {schema : Schema}
    (hfield : ∀ field ∈ schema.fields, field.read.Canonical field.write) :
    schema.read.Canonical Struct.write := by
  intro bs rest s h
  rw [read_eq] at h
  obtain ⟨values, hvalues, rfl⟩ := Reader.bind_pure_eq_ok.mp h
  refine (Field.canonical_readEach hfield hvalues).mono fun out hout => ?_
  exact (Struct.writes_iff.mp hout).2

/-! ### Types -/

/-- **Every value that was read is written for the bytes it was read from**, or for fewer. -/
theorem FieldType.canonical_read (type : FieldType) (field : String) :
    type.read.Canonical (type.write field) := by
  intro bs rest v h
  induction type generalizing bs rest v field with
  | primitive p =>
    obtain ⟨x, hx, rfl⟩ := Reader.bind_pure_eq_ok.mp h
    refine (Primitive.canonical_read p hx).mono fun out hout => ?_
    obtain ⟨y, hy, hout⟩ := writes_primitive.mp hout
    cases hy
    exact hout
  | array form items ih =>
    obtain ⟨length, mid, hlength, hread⟩ := Reader.bind_eq_ok.mp h
    cases length with
    | none =>
      cases hread
      exact Length.respells_of_readNull hlength
    | some n =>
      obtain ⟨vs, hvs, rfl⟩ := Reader.bind_pure_eq_ok.mp hread
      obtain rfl := Reader.length_of_count hvs
      have hcount : (Length.write .items form vs.length).Respells bs mid :=
        Length.respells_of_read hlength
      have hitems : (Output.forEach (items.write field) vs).Respells mid rest :=
        Reader.Canonical.count (ih field) vs.length hvs
      rw [FieldType.write]
      exact hcount.append hitems
  | struct schema ih =>
    obtain ⟨s, hs, rfl⟩ := Reader.bind_pure_eq_ok.mp h
    have hfields : ∀ f ∈ schema.fields, f.read.Canonical f.write :=
      fun f hmem => Field.canonical_read (ih f hmem f.name)
    refine (Schema.canonical_of_fields hfields hs).mono fun out hout => ?_
    obtain ⟨s', hs', -, hout⟩ := writes_struct.mp hout
    cases hs'
    exact hout

/-! ### Complete buffers -/

namespace Schema

variable {schema : Schema} {bs : Bytes} {s : Struct}

theorem canonical_read (schema : Schema) : schema.read.Canonical Struct.write :=
  canonical_of_fields fun field _ =>
    Field.canonical_read (FieldType.canonical_read field.type field.name)

/-- A decoded struct that cannot be encoded again holds a text above the limit. -/
theorem tooLong_of_encode_eq_error {e : Error} (h : schema.decode bs = .ok s)
    (he : schema.encode s = .error e) :
    ∃ text ∈ s.texts, e = .packetEncoding (.tooLong .text text.utf8ByteSize) := by
  obtain ⟨rfl, hconforms⟩ := conforms_of_read (decode_eq_ok.mp h)
  obtain ⟨text, hmem, -, htext⟩ := hconforms.long_of_encode_eq_error he
  exact ⟨text, hmem, htext⟩

/-- **Encoding again what was decoded canonicalises it.** The struct holds one fitting value for
each field at every level, so it is never refused for its shape. What is encoded is at most as
long as the buffer that was decoded, and equal to it exactly if it is as long. A schema without
varints leaves no choice of spelling, and there the same bytes come back in any case. -/
theorem canonical_of_decode (h : schema.decode bs = .ok s) :
    (s.schema = schema ∧ s.Conforms) ∧
    (∀ fault, schema.encode s ≠ .error (.schemaEncoding fault)) ∧
    (∀ out, schema.encode s = .ok out →
      out.length ≤ bs.length ∧ (out = bs ↔ out.length = bs.length)) ∧
    (schema.IsClassic → schema.encode s = .ok bs) := by
  have hread : schema.read bs = .ok (s, []) := decode_eq_ok.mp h
  refine ⟨conforms_of_read hread, ?_, ?_, fun classic => encode_decode classic h⟩
  · intro fault hfault
    obtain ⟨text, -, he⟩ := tooLong_of_encode_eq_error h hfault
    cases he
  · intro out hout
    have hrespells : s.write.Respells bs [] := canonical_read schema hread
    obtain ⟨-, hwrites⟩ := encode_eq_ok.mp hout
    exact ⟨hrespells.length_le hwrites, hrespells.eq_iff_length hwrites⟩

/-- Superfluous zeros in the count of an array, in a length and in a size, two levels deep. -/
theorem canonical_of_decode_spaciousNotes :
    let bs : Bytes := [130, 0, 255, 255, 0, 0, 0, 1, 130, 128, 0, 98, 1, 4, 129, 0, 9]
    let out : Bytes := [2, 255, 255, 0, 0, 0, 1, 2, 98, 1, 4, 1, 9]
    let s : Struct := ⟨notesSchema,
      [.array (some [.struct ⟨noteSchema, [.nullableString none, .array (some [.string "b"])]⟩]),
        .primitive .tagBuffer { fields := [⟨4, [9]⟩] }]⟩
    notesSchema.decode bs = .ok s ∧ notesSchema.encode s = .ok out ∧
      s.Conforms ∧ out.length ≤ bs.length ∧ (out = bs ↔ out.length = bs.length) := by
  intro bs out s
  have decoded : notesSchema.decode bs = .ok s := rfl
  have encoded : notesSchema.encode s = .ok out := rfl
  obtain ⟨⟨-, conforms⟩, -, canonical, -⟩ := canonical_of_decode decoded
  exact ⟨decoded, encoded, conforms, canonical out encoded⟩

end Schema

end KafkaWire
