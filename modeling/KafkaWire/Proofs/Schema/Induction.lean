import KafkaWire.Proofs.Wire.Primitive
import KafkaWire.Schema.Codec

/-!
# Induction on types

Types contain schemas, schemas contain fields, and fields contain types again. One induction
principle hides the detour: a type is primitive, an array, or a struct whose fields have smaller
types. What a type writes and reads is stated case by case to match it.

A writer checks the value on the way. That something was written at all therefore says what the
value is, and no separate account of well-formed values is needed to read it back.

## Main results

* `FieldType.induction` — the induction principle
* `FieldType.writes_primitive`, `FieldType.writes_array`, `FieldType.writes_struct` — what was
  written, by type
* `Field.readEach_writeEach` — reading a struct, once its fields can be read
-/

namespace KafkaWire

/-! ### Induction -/

mutual

/-- Induction on types, where a struct may count on all of its fields. -/
@[induction_eliminator]
theorem FieldType.induction {motive : FieldType → Prop}
    (primitive : ∀ p, motive (.primitive p))
    (array : ∀ form items, motive items → motive (.array form items))
    (struct : ∀ schema, (∀ field ∈ schema.fields, motive field.type) → motive (.struct schema)) :
    (type : FieldType) → motive type
  | .primitive p => primitive p
  | .array form items => array form items (FieldType.induction primitive array struct items)
  | .struct ⟨name, fields⟩ =>
    struct ⟨name, fields⟩ (FieldType.induction_fields primitive array struct fields)

theorem FieldType.induction_fields {motive : FieldType → Prop}
    (primitive : ∀ p, motive (.primitive p))
    (array : ∀ form items, motive items → motive (.array form items))
    (struct : ∀ schema, (∀ field ∈ schema.fields, motive field.type) → motive (.struct schema)) :
    (fields : List Field) → ∀ field ∈ fields, motive field.type
  | ⟨_, type⟩ :: fields, field, hmem => by
    rcases List.mem_cons.mp hmem with h | hmem
    · rw [h]
      exact FieldType.induction primitive array struct type
    · exact FieldType.induction_fields primitive array struct fields field hmem

end

/-! ### Writing, by type -/

namespace FieldType

variable {field : String} {v : Value} {bs : Bytes}

theorem writes_primitive {p : Primitive} : ((primitive p).write field v).Writes bs ↔
    ∃ x, v = .primitive p.kind x ∧ (p.write x).Writes bs := by
  constructor
  · intro h
    simp only [write] at h
    split at h
    · rename_i x hx
      exact ⟨x, Value.as?_eq_some.mp hx, h⟩
    · exact absurd h Output.not_writes_fail
  · rintro ⟨x, rfl, h⟩
    have hx : (Value.primitive p.kind x).as? p.kind = some x := Value.as?_eq_some.mpr rfl
    simpa only [write, hx] using h

theorem writes_array {form : Form} {items : FieldType} :
    ((array form items).write field v).Writes bs ↔
      v = .array none ∧ (Length.writeNull .items form).Writes bs ∨
      ∃ vs, v = .array (some vs) ∧ ∃ front back, (Length.write .items form vs.length).Writes front ∧
        (Output.forEach (items.write field) vs).Writes back ∧ front ++ back = bs := by
  constructor
  · intro h
    cases v with
    | primitive kind x => exact absurd h Output.not_writes_fail
    | struct s => exact absurd h Output.not_writes_fail
    | array content =>
      cases content with
      | none => exact .inl ⟨rfl, h⟩
      | some vs => exact .inr ⟨vs, rfl, Output.writes_append.mp h⟩
  · rintro (⟨rfl, h⟩ | ⟨vs, rfl, h⟩)
    · exact h
    · exact Output.writes_append.mpr h

theorem writes_struct {schema : Schema} : ((struct schema).write field v).Writes bs ↔
    ∃ s, v = .struct s ∧ s.schema = schema ∧ s.write.Writes bs := by
  constructor
  · intro h
    cases v with
    | primitive kind x => exact absurd h Output.not_writes_fail
    | array items => exact absurd h Output.not_writes_fail
    | struct s =>
      simp only [write] at h
      split at h
      · rename_i hschema
        refine ⟨s, rfl, hschema, ?_⟩
        rw [Struct.write, hschema]
        exact h
      · exact absurd h Output.not_writes_fail
  · rintro ⟨s, rfl, rfl, h⟩
    simp only [write, if_true]
    exact h

end FieldType

theorem Struct.writes_iff {s : Struct} {bs : Bytes} : s.write.Writes bs ↔
    s.schema.fields.length = s.values.length ∧
      (Field.writeEach s.schema.fields s.values).Writes bs := by
  obtain ⟨⟨name, fields⟩, values⟩ := s
  simp only [write, Schema.writeValues]
  split
  · simp [*]
  · simp [*]

/-! ### Structs, field by field -/

namespace Field

theorem write_eq (field : Field) (v : Value) : field.write v = field.type.write field.name v := by
  cases field
  rfl

theorem read_eq (field : Field) : field.read = field.type.read := by
  cases field
  rfl

/-- Each field in turn comes back, and so do all of them. -/
theorem readEach_writeEach {fields : List Field} {values : List Value} {bs : Bytes}
    (hfield : ∀ field ∈ fields, ∀ v ∈ values, ∀ front, (field.write v).Writes front →
      ∀ rest, field.read (front ++ rest) = .ok (v, rest))
    (hlength : fields.length = values.length) (h : (writeEach fields values).Writes bs)
    (rest : Bytes) : readEach fields (bs ++ rest) = .ok (values, rest) := by
  induction fields generalizing values bs with
  | nil =>
    obtain rfl := List.length_eq_zero_iff.mp hlength.symm
    obtain rfl := Output.writes_empty.mp h
    rfl
  | cons field fields ih =>
    cases values with
    | nil => exact absurd hlength (by simp)
    | cons v values =>
      obtain ⟨front, back, hv, hvalues, rfl⟩ := Output.writes_append.mp h
      have hhead := hfield field List.mem_cons_self v List.mem_cons_self front hv (back ++ rest)
      have htail := ih
        (fun f hf w hw => hfield f (List.mem_cons_of_mem field hf) w (List.mem_cons_of_mem v hw))
        (Nat.succ.inj hlength) hvalues
      rw [List.append_assoc, readEach, Reader.bind_of_ok hhead, Reader.bind_of_ok htail,
        Reader.pure_run]

end Field

namespace Schema

theorem read_eq (schema : Schema) :
    schema.read = do return ⟨schema, ← Field.readEach schema.fields⟩ := by
  cases schema
  rfl

theorem read_of_ok {schema : Schema} {bs rest : Bytes} {values : List Value}
    (h : Field.readEach schema.fields bs = .ok (values, rest)) :
    schema.read bs = .ok (⟨schema, values⟩, rest) := by
  rw [read_eq, Reader.bind_of_ok h, Reader.pure_run]

theorem decode_eq_whole (schema : Schema) : schema.decode =
    schema.read.whole fun count => .schemaDecoding (.leftover count schema.name) := by
  funext bs
  simp only [decode, Reader.whole, bind, Except.bind]
  cases schema.read bs with
  | error e => rfl
  | ok p =>
    obtain ⟨s, rest⟩ := p
    cases rest <;> rfl

theorem decode_eq_ok {schema : Schema} {bs : Bytes} {s : Struct} :
    schema.decode bs = .ok s ↔ schema.read bs = .ok (s, []) := by
  rw [decode_eq_whole, Reader.whole_eq_ok]

theorem encode_eq_ok {schema : Schema} {s : Struct} {bs : Bytes} :
    schema.encode s = .ok bs ↔ s.schema = schema ∧ s.write.Writes bs := by
  rw [encode]
  split
  · simp [*, Output.encode_eq_ok]
  · simp [*]

end Schema

end KafkaWire
