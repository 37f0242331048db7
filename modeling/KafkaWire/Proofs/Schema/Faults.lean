import KafkaWire.Proofs.Schema.Induction
import KafkaWire.Proofs.Wire.Exact

/-!
# Writing is checking

A struct is built without any check, so it may hold too few values or too many, values of the
wrong kind, structs of the wrong schema and values of any length. All of this is found when it is
written, and **nothing else is**: a struct is encoded exactly if it fits its schema, and otherwise
the error is the first fault in it.

Which fault is the first needs an order. Writing goes through the fields of a struct and the
elements of an array in turn, and judges each value before the values inside it. So the faults of
a struct are listed apart from any writing: every place in it is looked at on its own
(`Place.fault?`), and the places stand in the order in which a reader of the struct comes by them
(`FieldType.places`).

## Main definitions

* `FieldType.Admits` — the values that can be written as a type
* `Place`, `Place.fault?` — a value that is to be of some type, and what is wrong with it alone
* `Schema.faults` — all faults in a struct, in order

## Main results

* `FieldType.fault_write_eq` — writing stops at the first fault
* `FieldType.admits_iff` — values without a fault are those that fit
* `Schema.encode_outcome` — both, for whole structs
-/

namespace KafkaWire

/-! ### Values that fit -/

/-- What the length in front of a value counts, and how much of it there is. Null has no length,
nor has a value of fixed width, nor a tag buffer, whose parts are counted by varints. -/
def Value.measure? : Value → Option (Counted × Nat)
  | .primitive .string s => some (.text, s.utf8ByteSize)
  | .primitive .nullableString (some s) => some (.text, s.utf8ByteSize)
  | .primitive .bytes bs => some (.data, bs.length)
  | .primitive .nullableBytes (some bs) => some (.data, bs.length)
  | .array (some vs) => some (.items, vs.length)
  | _ => none

/-- The length in front of the value, if it has one, fits in its integer: 16 bits for texts and 32
bits for the rest, with a sign. -/
def Value.IsShort (v : Value) : Prop :=
  ∀ what length, v.measure? = some (what, length) →
    length ≤ if what = .text then 32767 else 0x7fffffff

/-- The value is of the kind that the type takes, at every depth, and all lengths in it are within
the limits. -/
inductive FieldType.Admits : FieldType → Value → Prop
  | primitive {p : Primitive} {x : p.Carrier} (short : (Value.primitive p.kind x).IsShort) :
    Admits (.primitive p) (.primitive p.kind x)
  | null {form : Form} {items : FieldType} : Admits (.array form items) (.array none)
  | array {form : Form} {items : FieldType} {vs : List Value}
    (short : (Value.array (some vs)).IsShort) (each : ∀ v ∈ vs, Admits items v) :
    Admits (.array form items) (.array (some vs))
  | struct {schema : Schema} {s : Struct} (schema_eq : s.schema = schema)
    (count : schema.fields.length = s.values.length)
    (each : ∀ (i : Nat) field v, schema.fields[i]? = some field → s.values[i]? = some v →
      Admits field.type v) : Admits (.struct schema) (.struct s)

/-! ### Places and their faults -/

/-- The kind of the values of a type. -/
def FieldType.kind : FieldType → Value.Kind
  | .primitive p => .primitive p.kind
  | .array .. => .array
  | .struct _ => .struct

/-- A value that is to be of some type, in the named field or in an array there. -/
structure Place where
  field : String
  type : FieldType
  value : Value

/-- What is wrong with the length of a value. -/
def Value.lengthFault? (v : Value) : Option Error :=
  match v.measure? with
  | some (what, length) =>
    if what.writeLimit < length then some (.packetEncoding (.tooLong what length)) else none
  | none => none

/-- What is wrong with a struct before any of its values is looked at: it is of another schema,
which is told as `other`, or it has not one value for each field. -/
def Struct.fault? (s : Struct) (schema : Schema) (other : ShapeFault) : Option Error :=
  if s.schema ≠ schema then some (.schemaEncoding other)
  else if schema.fields.length ≠ s.values.length then
    some (.schemaEncoding (.valueCount schema.name s.values.length schema.fields.length))
  else none

/-- What is wrong with the value at a place, apart from the values inside it. -/
def Place.fault? : Place → Option Error
  | ⟨field, .struct schema, .struct s⟩ =>
    s.fault? schema (.wrongStruct field schema.name s.schema.name)
  | ⟨field, type, v⟩ =>
    if v.kind = type.kind then v.lengthFault?
    else some (.schemaEncoding (.wrongKind field type.name v.kind.name))

/-- The elements of an array. Null has none. -/
def Value.elements : Value → List Value
  | .array (some vs) => vs
  | _ => []

/-- The values of a struct. -/
def Value.members : Value → List Value
  | .struct s => s.values
  | _ => []

mutual

/-- A value and all values inside it, each behind the one that holds it. -/
def FieldType.places (field : String) : FieldType → Value → List Place
  | .primitive p, v => [⟨field, .primitive p, v⟩]
  | .array form items, v =>
    ⟨field, .array form items, v⟩ :: v.elements.flatMap (items.places field)
  | .struct schema, v => ⟨field, .struct schema, v⟩ :: schema.places v.members

/-- The values of a struct, with all values inside them. -/
def Schema.places : Schema → List Value → List Place
  | ⟨_, fields⟩, values => Field.placesEach fields values

/-- Fields and values in step. -/
def Field.placesEach : List Field → List Value → List Place
  | [], _ => []
  | _, [] => []
  | field :: fields, v :: values => field.places v ++ Field.placesEach fields values

/-- The value of a field, with all values inside it. -/
def Field.places : Field → Value → List Place
  | ⟨name, type⟩, v => type.places name v

end

/-- **All faults of a struct** that is to be of the schema: its own, and those of its values in
order. -/
def Schema.faults (schema : Schema) (s : Struct) : List Error :=
  (s.fault? schema (.writtenAs s.schema.name schema.name)).toList ++
    (schema.places s.values).filterMap Place.fault?

/-! ### Writing stops at the first fault -/

theorem Value.exists_of_kind_primitive {v : Value} {kind : Primitive.Kind}
    (h : v.kind = .primitive kind) : ∃ x, v = .primitive kind x := by
  cases v with
  | primitive kind' x =>
    obtain rfl : kind' = kind := Value.Kind.primitive.inj h
    exact ⟨x, rfl⟩
  | array items => cases h
  | struct s => cases h

/-- Only its length can prevent a primitive value from being written. -/
theorem Primitive.fault_write_eq (p : Primitive) (x : p.Carrier) :
    (p.write x).fault = (Value.primitive p.kind x).lengthFault? := by
  have htext (form : Form) (s : String) :
      (writeText form s).fault = (Value.string s).lengthFault? := fault_writeText form s
  have hdata (form : Form) (bs : Bytes) :
      (writeData form bs).fault = (Value.primitive .bytes bs).lengthFault? := by
    rw [writeData, Output.fault_append, Length.fault_write]
    exact Option.or_none
  cases p with
  | bool | int8 | int16 | int32 | int64 | uvarint | varint | uuid => rfl
  | string form => exact htext form x
  | nullableString form =>
    cases x with
    | none => exact Length.fault_writeNull .text form
    | some s => exact htext form s
  | bytes form => exact hdata form x
  | nullableBytes form =>
    cases x with
    | none => exact Length.fault_writeNull .data form
    | some bs => exact hdata form bs
  | messageSet =>
    cases x with
    | none => exact Length.fault_writeNull .data .classic
    | some bs => exact hdata .classic bs
  | tagBuffer => exact TagBuffer.fault_write x

/-- A value of another kind than the type takes is refused, and of the others only the length can
prevent them from being written. -/
theorem FieldType.fault_write_primitive (p : Primitive) (field : String) (v : Value) :
    ((primitive p).write field v).fault = Place.fault? ⟨field, .primitive p, v⟩ := by
  show _ = if v.kind = .primitive p.kind then v.lengthFault?
    else some (write.mismatch field p.name v.kind.name)
  rw [write]
  cases hv : v.as? p.kind with
  | some x =>
    obtain rfl := Value.as?_eq_some.mp hv
    exact (p.fault_write_eq x).trans (if_pos rfl).symm
  | none =>
    have hkind : v.kind ≠ .primitive p.kind := by
      intro hkind
      obtain ⟨x, rfl⟩ := Value.exists_of_kind_primitive hkind
      rw [Value.as?_eq_some.mpr rfl] at hv
      cases hv
    rw [if_neg hkind]
    rfl

theorem Field.fault_writeEach_eq {fields : List Field}
    (h : ∀ field ∈ fields, ∀ v, (field.write v).fault = (field.places v).findSome? Place.fault?)
    (values : List Value) :
    (writeEach fields values).fault = (placesEach fields values).findSome? Place.fault? := by
  induction fields generalizing values with
  | nil => rfl
  | cons field fields ih =>
    cases values with
    | nil => rfl
    | cons v values =>
      rw [writeEach, placesEach, Output.fault_append, h field List.mem_cons_self,
        ih fun f hf => h f (List.mem_cons_of_mem field hf), List.findSome?_append]

/-- A struct stops the writer with its own fault, or else with the first fault of its values. -/
theorem Schema.fault_writeValues {schema : Schema}
    (h : ∀ field ∈ schema.fields, ∀ v,
      (field.write v).fault = (field.places v).findSome? Place.fault?)
    (s : Struct) (other : ShapeFault) :
    (if s.schema = schema then schema.writeValues s.values
      else .fail (.schemaEncoding other)).fault =
      (s.fault? schema other).or ((schema.places s.values).findSome? Place.fault?) := by
  obtain ⟨name, fields⟩ := schema
  rw [Struct.fault?]
  by_cases hschema : s.schema = ⟨name, fields⟩
  · rw [if_pos hschema, if_neg (not_not_intro hschema), writeValues]
    by_cases hcount : fields.length = s.values.length
    · rw [if_pos hcount, if_neg (not_not_intro hcount), Option.none_or]
      exact Field.fault_writeEach_eq h s.values
    · rw [if_neg hcount, if_pos hcount]
      rfl
  · rw [if_neg hschema, if_pos hschema]
    rfl

theorem Field.places_eq (field : Field) (v : Value) :
    field.places v = field.type.places field.name v := by
  cases field
  rfl

theorem Schema.places_eq (schema : Schema) (values : List Value) :
    schema.places values = Field.placesEach schema.fields values := by
  cases schema
  rfl

/-- **A writer stops at the first fault** of a value or of a value inside it. -/
theorem FieldType.fault_write_eq (type : FieldType) (field : String) (v : Value) :
    (type.write field v).fault = (type.places field v).findSome? Place.fault? := by
  induction type generalizing field v with
  | primitive p =>
    rw [places, List.findSome?_singleton]
    exact fault_write_primitive p field v
  | array form items ih =>
    cases v with
    | primitive kind x => rfl
    | struct s => rfl
    | array content =>
      cases content with
      | none => exact Length.fault_writeNull .items form
      | some vs =>
        have hown : Place.fault? ⟨field, .array form items, .array (some vs)⟩ =
          (Length.write .items form vs.length).fault := (Length.fault_write _ _ _).symm
        have heach : (Output.forEach (items.write field) vs).fault =
            (vs.flatMap (items.places field)).findSome? Place.fault? :=
          Output.fault_forEach_eq fun v _ => ih field v
        rw [places, List.findSome?_cons, hown, write, Output.fault_append, heach]
        cases (Length.write .items form vs.length).fault <;> rfl
  | struct schema ih =>
    cases v with
    | primitive kind x => rfl
    | array items => rfl
    | struct s =>
      have hfields : ∀ f ∈ schema.fields, ∀ v,
          (f.write v).fault = (f.places v).findSome? Place.fault? := by
        intro f hf v
        rw [Field.write_eq, Field.places_eq, ih f hf]
      have hown : Place.fault? ⟨field, .struct schema, .struct s⟩ =
        s.fault? schema (.wrongStruct field schema.name s.schema.name) := rfl
      rw [places, List.findSome?_cons, hown, write, Schema.fault_writeValues hfields]
      cases s.fault? schema (.wrongStruct field schema.name s.schema.name) <;> rfl

/-! ### Values without a fault are those that fit -/

theorem Value.lengthFault_eq_none {v : Value} : v.lengthFault? = none ↔ v.IsShort := by
  have hlimit (what : Counted) :
      what.writeLimit = if what = .text then 32767 else 0x7fffffff := by
    cases what <;> rfl
  rw [lengthFault?, IsShort]
  cases v.measure? with
  | none => simp
  | some m =>
    obtain ⟨what, length⟩ := m
    simp [← hlimit]

theorem Struct.fault_eq_none {s : Struct} {schema : Schema} {other : ShapeFault} :
    s.fault? schema other = none ↔
      s.schema = schema ∧ schema.fields.length = s.values.length := by
  rw [fault?]
  by_cases hschema : s.schema = schema
  · rw [if_neg (not_not_intro hschema)]
    simp [hschema]
  · rw [if_pos hschema]
    simp [hschema]

/-- The values of the fields have no fault if each of them has none. -/
theorem Field.forall_mem_placesEach {fields : List Field} {values : List Value}
    {P : Place → Prop} : (∀ place ∈ placesEach fields values, P place) ↔
      ∀ (i : Nat) field v, fields[i]? = some field → values[i]? = some v →
        ∀ place ∈ field.type.places field.name v, P place := by
  induction fields generalizing values with
  | nil => simp [placesEach]
  | cons f fields ih =>
    cases values with
    | nil => simp [placesEach]
    | cons w values =>
      rw [placesEach, List.forall_mem_append, ih, places_eq]
      constructor
      · rintro ⟨hhead, htail⟩ i field v hf hv
        cases i with
        | zero =>
          cases hf
          cases hv
          exact hhead
        | succ i => exact htail i field v hf hv
      · intro hall
        exact ⟨hall 0 f w rfl rfl, fun i field v hf hv => hall (i + 1) field v hf hv⟩

namespace FieldType

/-- A primitive value fits if it is of the right kind and not too long. -/
theorem admits_primitive {p : Primitive} {v : Value} :
    (primitive p).Admits v ↔ v.kind = .primitive p.kind ∧ v.IsShort := by
  constructor
  · rintro ⟨short⟩
    exact ⟨rfl, short⟩
  · rintro ⟨hkind, short⟩
    obtain ⟨x, rfl⟩ := Value.exists_of_kind_primitive hkind
    exact .primitive short

/-- An array fits if it is not too long and its elements fit. -/
theorem admits_array {form : Form} {items : FieldType} {v : Value} :
    (array form items).Admits v ↔
      (v.kind = .array ∧ v.IsShort) ∧ ∀ element ∈ v.elements, items.Admits element := by
  constructor
  · intro h
    cases h with
    | null => exact ⟨⟨rfl, fun _ _ h => nomatch h⟩, fun _ h => nomatch h⟩
    | array short each => exact ⟨⟨rfl, short⟩, each⟩
  · rintro ⟨⟨hkind, short⟩, each⟩
    cases v with
    | primitive kind x => cases hkind
    | struct s => cases hkind
    | array content =>
      cases content with
      | none => exact .null
      | some vs => exact .array short each

/-- The place of a value that is to be no struct has no fault if the value is of the right kind and
not too long. -/
theorem fault_eq_none {type : FieldType} (h : type.kind ≠ .struct) {field : String} {v : Value} :
    Place.fault? ⟨field, type, v⟩ = none ↔ v.kind = type.kind ∧ v.IsShort := by
  have hown : Place.fault? ⟨field, type, v⟩ = if v.kind = type.kind then v.lengthFault?
      else some (.schemaEncoding (.wrongKind field type.name v.kind.name)) := by
    cases type with
    | primitive p => rfl
    | array form items => rfl
    | struct schema => exact absurd rfl h
  rw [hown, ← Value.lengthFault_eq_none]
  split <;> simp [*]

/-- **The values that fit are those without a fault**, at any depth. -/
theorem admits_iff {type : FieldType} {v : Value} (field : String) :
    type.Admits v ↔ ∀ place ∈ type.places field v, place.fault? = none := by
  induction type generalizing field v with
  | primitive p =>
    rw [places, List.forall_mem_singleton, fault_eq_none (by rintro ⟨⟩), admits_primitive]
    rfl
  | array form items ih =>
    rw [places, List.forall_mem_cons, List.forall_mem_flatMap, fault_eq_none (by rintro ⟨⟩),
      admits_array]
    exact and_congr_right fun _ => forall₂_congr fun element _ => ih field
  | struct schema ih =>
    rw [places, List.forall_mem_cons, Schema.places_eq, Field.forall_mem_placesEach]
    constructor
    · intro h
      cases h with
      | struct schema_eq count each =>
        refine ⟨Struct.fault_eq_none.mpr ⟨schema_eq, count⟩, fun i f v hf hv => ?_⟩
        exact (ih f (List.mem_of_getElem? hf) f.name).mp (each i f v hf hv)
    · rintro ⟨hown, heach⟩
      cases v with
      | primitive kind x => cases hown
      | array content => cases hown
      | struct s =>
        obtain ⟨hschema, hcount⟩ := Struct.fault_eq_none.mp hown
        refine .struct hschema hcount fun i f v hf hv => ?_
        exact (ih f (List.mem_of_getElem? hf) f.name).mpr (heach i f v hf hv)

end FieldType

/-! ### Structs -/

namespace Schema

variable {schema : Schema} {s : Struct}

/-- **Encoding ends with the first fault.** -/
theorem encode_eq_error {e : Error} :
    schema.encode s = .error e ↔ (schema.faults s).head? = some e := by
  have hfields : ∀ f ∈ schema.fields, ∀ v,
      (f.write v).fault = (f.places v).findSome? Place.fault? := by
    intro f _ v
    rw [Field.write_eq, Field.places_eq, f.type.fault_write_eq]
  have hencode : schema.encode s = (if s.schema = schema then schema.writeValues s.values
      else .fail (.schemaEncoding (.writtenAs s.schema.name schema.name))).encode := by
    rw [encode]
    split
    · rename_i hschema
      subst hschema
      rfl
    · rfl
  rw [hencode, Output.encode_eq_error, fault_writeValues hfields, faults, List.head?_append,
    Option.head?_toList, List.head?_filterMap]

/-- A struct has no faults exactly if it fits. -/
theorem faults_eq_nil : schema.faults s = [] ↔ (FieldType.struct schema).Admits (.struct s) := by
  have hown : s.fault? schema (.writtenAs s.schema.name schema.name) = none ↔
      Place.fault? ⟨schema.name, .struct schema, .struct s⟩ = none :=
    Struct.fault_eq_none.trans Struct.fault_eq_none.symm
  rw [FieldType.admits_iff schema.name, FieldType.places, List.forall_mem_cons, ← hown, faults,
    List.append_eq_nil_iff, Option.toList_eq_nil_iff, List.filterMap_eq_nil_iff]
  rfl

/-- **Encoding is an exact check.** A struct is encoded by a schema if it is of that schema, holds
one value for each field, each of the kind that the type of the field takes and so on within arrays
and structs, and no text, byte string or array in it is longer than can be written; and only then.
Any other struct has faults, and the error is the first of them. -/
theorem encode_outcome (schema : Schema) (s : Struct) :
    ((∃ bs, schema.encode s = .ok bs) ↔ (FieldType.struct schema).Admits (.struct s)) ∧
      ∀ e, schema.encode s = .error e ↔ (schema.faults s).head? = some e := by
  refine ⟨?_, fun e => encode_eq_error⟩
  rw [← faults_eq_nil, ← List.head?_eq_none_iff]
  constructor
  · rintro ⟨bs, hbs⟩
    cases hfault : (schema.faults s).head? with
    | none => rfl
    | some e =>
      rw [encode_eq_error.mpr hfault] at hbs
      cases hbs
  · intro hnone
    cases hencode : schema.encode s with
    | ok bs => exact ⟨bs, rfl⟩
    | error e =>
      rw [encode_eq_error.mp hencode] at hnone
      cases hnone

/-- The fault inside the first field comes before that of the second. -/
example :
    let schema : Schema :=
      ⟨"S", [⟨"a", .array .classic (.primitive .int16)⟩, ⟨"b", .primitive .bool⟩]⟩
    schema.faults ⟨schema, [.array (some [.int16 1, .int32 2]), .int16 3]⟩ =
      [.schemaEncoding (.wrongKind "a" "int16" "int32"),
        .schemaEncoding (.wrongKind "b" "bool" "int16")] := by
  decide

end Schema

end KafkaWire
