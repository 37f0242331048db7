import KafkaWire.Proofs.Schema.Induction

/-!
# Structs come back

Every struct that can be written by a schema is read back by it, whatever types the schema is
made of and however deep they are nested, provided that the reader's limits are kept.

Two of these limits are those of a value: arrays must not be too long, and tag buffers must be as
they should be. The third is one of the schema. The count of an array is checked against the bytes
that are left, **one for each element**, before any element is read. An array of elements that
take no bytes, such as structs without fields, would be refused although it was written well, so
no array of the schema may have such elements (`Schema.Countable`).

## Main definitions

* `Schema.types`, `Struct.contents` — the types and the values at any depth
* `FieldType.LeavesTrace`, `Schema.Countable` — no value, or no element of an array, vanishes
* `Struct.WithinLimits` — arrays and tag buffers are within what reading admits

## Main results

* `FieldType.leavesTrace_iff` — types that leave a trace can be told by their looks
* `FieldType.read_write` — the round trip of values, whatever follows
* `Schema.decode_encode_struct` — the round trip of structs
-/

namespace KafkaWire

/-! ### Types and values at any depth -/

mutual

/-- A type and those it is made of, at any depth. -/
def FieldType.types : FieldType → List FieldType
  | .primitive p => [.primitive p]
  | .array form items => .array form items :: items.types
  | .struct schema => .struct schema :: schema.types

/-- The types that a schema is made of, at any depth. -/
def Schema.types : Schema → List FieldType
  | ⟨_, fields⟩ => Field.typesEach fields

/-- The types of some fields and those they are made of. -/
def Field.typesEach : List Field → List FieldType
  | [] => []
  | ⟨_, type⟩ :: fields => type.types ++ Field.typesEach fields

end

mutual

/-- A value and those in it, at any depth, in the order in which they are written. -/
def Value.contents : Value → List Value
  | .primitive kind x => [.primitive kind x]
  | .array none => [.array none]
  | .array (some items) => .array (some items) :: Value.contentsEach items
  | .struct s => .struct s :: s.contents

/-- The values in a struct, at any depth. -/
def Struct.contents : Struct → List Value
  | ⟨_, values⟩ => Value.contentsEach values

/-- Some values and those in them. -/
def Value.contentsEach : List Value → List Value
  | [] => []
  | v :: values => v.contents ++ Value.contentsEach values

end

theorem Value.contentsEach_eq (values : List Value) :
    contentsEach values = values.flatMap contents := by
  induction values with
  | nil => rfl
  | cons v values ih => rw [contentsEach, ih, List.flatMap_cons]

theorem Struct.contents_eq (s : Struct) : s.contents = s.values.flatMap Value.contents := by
  obtain ⟨schema, values⟩ := s
  exact Value.contentsEach_eq values

theorem Value.self_mem_contents (v : Value) : v ∈ v.contents := by
  cases v with
  | primitive kind x => exact List.mem_singleton.mpr rfl
  | array items =>
    cases items with
    | none => exact List.mem_singleton.mpr rfl
    | some items => exact List.mem_cons_self
  | struct s => exact List.mem_cons_self

theorem Schema.types_subset {schema : Schema} {field : Field} (h : field ∈ schema.fields) :
    field.type.types ⊆ schema.types := by
  obtain ⟨name, fields⟩ := schema
  rw [types]
  induction fields with
  | nil => cases h
  | cons f fields ih =>
    obtain ⟨name, type⟩ := f
    rw [Field.typesEach]
    rcases List.mem_cons.mp h with rfl | h
    · exact List.subset_append_left _ _
    · exact List.Subset.trans (ih h) (List.subset_append_right _ _)

/-! ### Traces -/

/-- No value of the type is written as no bytes at all. -/
def FieldType.LeavesTrace (type : FieldType) : Prop :=
  ∀ field v, ¬ (type.write field v).Writes []

/-- In every array, at any depth, each element leaves a trace. -/
def Schema.Countable (schema : Schema) : Prop :=
  ∀ form items, .array form items ∈ schema.types → items.LeavesTrace

namespace FieldType

theorem leavesTrace_primitive (p : Primitive) : (primitive p).LeavesTrace := by
  intro field v h
  obtain ⟨x, rfl, hx⟩ := writes_primitive.mp h
  exact p.not_writes_nil x hx

/-- An array leaves a trace even without elements, and so does null. -/
theorem leavesTrace_array (form : Form) (items : FieldType) : (array form items).LeavesTrace := by
  intro field v h
  rcases writes_array.mp h with ⟨rfl, hnull⟩ | ⟨vs, rfl, front, back, hcount, -, happend⟩
  · exact Length.not_writeNull_nil .items form hnull
  · obtain ⟨rfl, -⟩ := List.append_eq_nil_iff.mp happend
    exact Length.not_writes_nil .items form vs.length hcount

end FieldType

theorem Field.not_writes_nil {fields : List Field} {values : List Value} {field : Field}
    (hmem : field ∈ fields) (htrace : field.type.LeavesTrace)
    (hlength : fields.length = values.length) : ¬ (writeEach fields values).Writes [] := by
  intro h
  induction fields generalizing values with
  | nil => cases hmem
  | cons f fields ih =>
    cases values with
    | nil => exact absurd hlength (by simp)
    | cons v values =>
      obtain ⟨front, back, hv, hvalues, happend⟩ := Output.writes_append.mp h
      obtain ⟨rfl, rfl⟩ := List.append_eq_nil_iff.mp happend
      rcases List.mem_cons.mp hmem with rfl | hmem
      · rw [Field.write_eq] at hv
        exact htrace field.name v hv
      · exact ih hmem (Nat.succ.inj hlength) hvalues

/-- One field that leaves a trace is enough. -/
theorem FieldType.leavesTrace_struct {schema : Schema} {field : Field}
    (hmem : field ∈ schema.fields) (htrace : field.type.LeavesTrace) :
    (struct schema).LeavesTrace := by
  intro name v h
  obtain ⟨s, rfl, rfl, hs⟩ := writes_struct.mp h
  obtain ⟨hlength, hvalues⟩ := Struct.writes_iff.mp hs
  exact Field.not_writes_nil hmem htrace hlength hvalues

mutual

/-- Whether a type is more than structs in structs without any other fields. -/
def FieldType.isSolid : FieldType → Bool
  | .primitive _ => true
  | .array _ _ => true
  | .struct schema => schema.isSolid

/-- Whether some field of the schema is. -/
def Schema.isSolid : Schema → Bool
  | ⟨_, fields⟩ => Field.anySolid fields

/-- Whether some of the fields is. -/
def Field.anySolid : List Field → Bool
  | [] => false
  | ⟨_, type⟩ :: fields => type.isSolid || Field.anySolid fields

end

theorem Field.anySolid_eq (fields : List Field) :
    anySolid fields = fields.any (·.type.isSolid) := by
  induction fields with
  | nil => rfl
  | cons field fields ih =>
    obtain ⟨name, type⟩ := field
    rw [anySolid, ih, List.any_cons]

theorem Schema.isSolid_iff {schema : Schema} :
    schema.isSolid = true ↔ ∃ field ∈ schema.fields, field.type.isSolid = true := by
  obtain ⟨name, fields⟩ := schema
  rw [isSolid, Field.anySolid_eq, List.any_eq_true]

/-- If no field is solid, each has a value that takes no bytes, and so has the struct. -/
theorem Field.exists_writes_nil {fields : List Field}
    (h : ∀ field ∈ fields, ∃ v, ∀ name, (field.type.write name v).Writes []) :
    ∃ values, fields.length = values.length ∧ (writeEach fields values).Writes [] := by
  induction fields with
  | nil => exact ⟨[], rfl, Output.writes_empty.mpr rfl⟩
  | cons field fields ih =>
    obtain ⟨v, hv⟩ := h field List.mem_cons_self
    obtain ⟨values, hlength, hvalues⟩ := ih fun f hf => h f (List.mem_cons_of_mem field hf)
    refine ⟨v :: values, congrArg Nat.succ hlength, ?_⟩
    rw [writeEach, write_eq]
    exact (hv field.name).append hvalues

theorem FieldType.exists_writes_nil {type : FieldType} (h : type.isSolid = false) :
    ∃ v, ∀ name, (type.write name v).Writes [] := by
  induction type with
  | primitive p => cases h
  | array form items ih => cases h
  | struct schema ih =>
    have hfields : ∀ field ∈ schema.fields, ∃ v, ∀ name, (field.type.write name v).Writes [] := by
      intro field hmem
      refine ih field hmem (Bool.eq_false_iff.mpr fun hsolid => ?_)
      rw [isSolid, Bool.eq_false_iff, ne_eq, Schema.isSolid_iff] at h
      exact h ⟨field, hmem, hsolid⟩
    obtain ⟨values, hlength, hvalues⟩ := Field.exists_writes_nil hfields
    refine ⟨.struct ⟨schema, values⟩, fun name => ?_⟩
    exact writes_struct.mpr ⟨_, rfl, rfl, Struct.writes_iff.mpr ⟨hlength, hvalues⟩⟩

/-- **Which types can vanish** can be told by their looks. -/
theorem FieldType.leavesTrace_iff {type : FieldType} :
    type.LeavesTrace ↔ type.isSolid = true := by
  constructor
  · intro htrace
    cases hsolid : type.isSolid with
    | true => rfl
    | false =>
      obtain ⟨v, hv⟩ := exists_writes_nil hsolid
      exact absurd (hv "") (htrace "" v)
  · intro hsolid
    induction type with
    | primitive p => exact leavesTrace_primitive p
    | array form items ih => exact leavesTrace_array form items
    | struct schema ih =>
      obtain ⟨field, hmem, hfield⟩ := Schema.isSolid_iff.mp hsolid
      exact leavesTrace_struct hmem (ih field hmem hfield)

/-- Whether the elements of an array all leave a trace; other types have none. -/
def FieldType.hasSolidItems : FieldType → Bool
  | .array _ items => items.isSolid
  | _ => true

theorem Schema.countable_iff {schema : Schema} :
    schema.Countable ↔ ∀ type ∈ schema.types, type.hasSolidItems = true := by
  constructor
  · intro h type hmem
    cases type with
    | array form items => exact FieldType.leavesTrace_iff.mp (h form items hmem)
    | primitive p => rfl
    | struct schema => rfl
  · intro h form items hmem
    exact FieldType.leavesTrace_iff.mpr (h _ hmem)

instance (schema : Schema) : Decidable schema.Countable :=
  decidable_of_iff _ Schema.countable_iff.symm

/-! ### Limits -/

/-- The limits of reading, as far as the value itself and not what is in it is concerned. -/
def Value.Admissible : Value → Prop
  | .primitive kind x => kind.WithinLimits x
  | .array items => ∀ vs ∈ items, vs.length ≤ maxItems
  | .struct _ => True

instance : (v : Value) → Decidable v.Admissible
  | .primitive kind x => inferInstanceAs (Decidable (kind.WithinLimits x))
  | .array items => inferInstanceAs (Decidable (∀ vs ∈ items, vs.length ≤ maxItems))
  | .struct _ => isTrue trivial

/-- No array in the value has more than `maxItems` elements, and tag buffers ascend, with at most
`maxItems` fields of less than `2 ^ 32` bytes. -/
def Value.WithinLimits (v : Value) : Prop := ∀ w ∈ v.contents, w.Admissible

/-- The same of all values of a struct. -/
def Struct.WithinLimits (s : Struct) : Prop := ∀ w ∈ s.contents, w.Admissible

instance (s : Struct) : Decidable s.WithinLimits :=
  inferInstanceAs (Decidable (∀ w ∈ s.contents, w.Admissible))

theorem Value.withinLimits_primitive {kind : Primitive.Kind} {x : kind.Carrier}
    (h : (primitive kind x).WithinLimits) : kind.WithinLimits x :=
  h _ (self_mem_contents _)

theorem Value.withinLimits_array {items : List Value} (h : (array (some items)).WithinLimits) :
    items.length ≤ maxItems ∧ ∀ v ∈ items, v.WithinLimits := by
  refine ⟨h _ (self_mem_contents _) items rfl, fun v hv w hw => h w ?_⟩
  rw [contents, contentsEach_eq]
  exact List.mem_cons_of_mem _ (List.mem_flatMap.mpr ⟨v, hv, hw⟩)

theorem Value.withinLimits_struct {s : Struct} (h : (struct s).WithinLimits) : s.WithinLimits :=
  fun w hw => h w (List.mem_cons_of_mem _ hw)

theorem Struct.WithinLimits.of_mem {s : Struct} (h : s.WithinLimits) {v : Value}
    (hv : v ∈ s.values) : v.WithinLimits := by
  intro w hw
  refine h w ?_
  rw [contents_eq]
  exact List.mem_flatMap.mpr ⟨v, hv, hw⟩

/-! ### The round trip -/

theorem Schema.read_of_fields {s : Struct} {bs : Bytes}
    (hfield : ∀ field ∈ s.schema.fields, ∀ v ∈ s.values, ∀ front, (field.write v).Writes front →
      ∀ rest, field.read (front ++ rest) = .ok (v, rest))
    (h : s.write.Writes bs) (rest : Bytes) : s.schema.read (bs ++ rest) = .ok (s, rest) := by
  obtain ⟨hlength, hvalues⟩ := Struct.writes_iff.mp h
  obtain ⟨schema, values⟩ := s
  exact read_of_ok (Field.readEach_writeEach hfield hlength hvalues rest)

/-- **The round trip of values.** What was written is read back, whatever follows it. -/
theorem FieldType.read_write {type : FieldType}
    (htrace : ∀ form items, .array form items ∈ type.types → items.LeavesTrace) {field : String}
    {v : Value} (hv : v.WithinLimits) {bs : Bytes} (h : (type.write field v).Writes bs)
    (rest : Bytes) : type.read (bs ++ rest) = .ok (v, rest) := by
  induction type generalizing field v bs rest with
  | primitive p =>
    obtain ⟨x, rfl, hx⟩ := writes_primitive.mp h
    rw [read, Reader.bind_of_ok
      (Primitive.read_write (Value.withinLimits_primitive hv) hx rest)]
    rfl
  | array form items ih =>
    rcases writes_array.mp h with ⟨rfl, hnull⟩ | ⟨vs, rfl, front, back, hcount, hvs, rfl⟩
    · rw [read, Reader.bind_of_ok (Length.read_writeNull hnull rest)]
      rfl
    · obtain ⟨hlen, hlimits⟩ := Value.withinLimits_array hv
      have hitems : items.LeavesTrace := htrace form items List.mem_cons_self
      have hread := Reader.count_forEach id
        (fun w hw front hfront => ih (fun f i hi => htrace f i (List.mem_cons_of_mem _ hi))
          (hlimits w hw) hfront) hvs rest
      rw [List.map_id] at hread
      rw [List.append_assoc, read, Reader.bind_of_ok
        (Length.read_write_items (fun w _ => hitems field w) hlen hcount hvs rest)]
      show (Reader.count vs.length items.read >>= fun vs => pure (Value.array (some vs)))
        (back ++ rest) = _
      rw [Reader.bind_of_ok hread, Reader.pure_run]
  | struct schema ih =>
    obtain ⟨s, rfl, rfl, hs⟩ := writes_struct.mp h
    have hfield : ∀ field ∈ s.schema.fields, ∀ w ∈ s.values, ∀ front,
        (field.write w).Writes front → ∀ rest, field.read (front ++ rest) = .ok (w, rest) := by
      intro field hmem w hw front hfront rest
      rw [Field.write_eq] at hfront
      rw [Field.read_eq]
      refine ih field hmem (fun f i hi => htrace f i ?_)
        ((Value.withinLimits_struct hv).of_mem hw) hfront rest
      exact List.mem_cons_of_mem _ (Schema.types_subset hmem hi)
    rw [read, Reader.bind_of_ok (Schema.read_of_fields hfield hs rest)]
    rfl

namespace Schema

variable {schema : Schema} {s : Struct} {bs : Bytes}

theorem read_write (countable : schema.Countable) (limits : s.WithinLimits)
    (hschema : s.schema = schema) (h : s.write.Writes bs) (rest : Bytes) :
    schema.read (bs ++ rest) = .ok (s, rest) := by
  subst hschema
  refine read_of_fields (fun field hmem w hw front hfront rest => ?_) h rest
  rw [Field.write_eq] at hfront
  rw [Field.read_eq]
  exact FieldType.read_write (fun f i hi => countable f i (types_subset hmem hi))
    (limits.of_mem hw) hfront rest

/-- **The round trip of structs.** A struct that was encoded is decoded again, also in front of
other bytes, and no other struct is encoded the same: in particular null, empty texts and empty
arrays stay apart. -/
theorem decode_encode_struct (countable : schema.Countable) (limits : s.WithinLimits)
    (encoded : schema.encode s = .ok bs) :
    schema.decode bs = .ok s ∧ (∀ rest, schema.read (bs ++ rest) = .ok (s, rest)) ∧
      ∀ s' : Struct, s'.WithinLimits → schema.encode s' = .ok bs → s' = s := by
  have hdecode : ∀ {t : Struct}, t.WithinLimits → schema.encode t = .ok bs →
      schema.decode bs = .ok t := by
    intro t ht hencode
    obtain ⟨hschema, hwrites⟩ := encode_eq_ok.mp hencode
    have hread := read_write countable ht hschema hwrites []
    rw [List.append_nil] at hread
    exact decode_eq_ok.mpr hread
  obtain ⟨hschema, hwrites⟩ := encode_eq_ok.mp encoded
  refine ⟨hdecode limits encoded, read_write countable limits hschema hwrites, ?_⟩
  intro s' limits' encoded'
  have heq := (hdecode limits' encoded').symm.trans (hdecode limits encoded)
  exact Except.ok.inj heq

/-- A title, or null, over some lines, or null. -/
def noteSchema : Schema :=
  ⟨"note",
    [⟨"title", .primitive (.nullableString .classic)⟩,
      ⟨"lines", .array .classic (.primitive (.string .compact))⟩]⟩

/-- Notes and tags. -/
def notesSchema : Schema :=
  ⟨"notes",
    [⟨"notes", .array .compact (.struct noteSchema)⟩,
      ⟨"_tagged_fields", .primitive .tagBuffer⟩]⟩

/-- Three notes, in which null is next to what is merely empty. -/
def notes : Struct :=
  ⟨notesSchema,
    [.array (some
      [.struct ⟨noteSchema, [.nullableString none, .array (some [])]⟩,
        .struct ⟨noteSchema, [.nullableString (some ""), .array none]⟩,
        .struct ⟨noteSchema,
          [.nullableString (some "a"), .array (some [.string "", .string "b"])]⟩]),
      .primitive .tagBuffer { fields := [⟨1, []⟩, ⟨4, [9]⟩] }]⟩

theorem decode_encode_notes :
    let bs : Bytes := [4, 255, 255, 0, 0, 0, 0, 0, 0, 255, 255, 255, 255, 0, 1, 97, 0, 0, 0, 2, 1,
      2, 98, 2, 1, 0, 4, 1, 9]
    notesSchema.Countable ∧ notes.WithinLimits ∧ notesSchema.encode notes = .ok bs ∧
      notesSchema.decode bs = .ok notes ∧
      (∀ rest, notesSchema.read (bs ++ rest) = .ok (notes, rest)) ∧
      ∀ s' : Struct, s'.WithinLimits → notesSchema.encode s' = .ok bs → s' = notes := by
  intro bs
  have countable : notesSchema.Countable := by decide
  have limits : notes.WithinLimits := by decide
  have encoded : notesSchema.encode notes = .ok bs := rfl
  exact ⟨countable, limits, encoded, decode_encode_struct countable limits encoded⟩

end Schema

end KafkaWire
