import KafkaWire.Wire.Primitive

/-!
# Schemas

A schema is a named list of named fields, each with a type: a primitive type, an array of some
type, or a struct with a schema of its own. It describes how a struct is written, field after
field.

## Main definitions

* `FieldType`, `Field`, `Schema` — the descriptions, with decidable equality
* `Schema.build?` — a schema, provided that its field names are distinct
* `Schema.indexOf?` — the position of a field
-/

namespace KafkaWire

mutual

/-- The type of a field. -/
inductive FieldType
  | primitive (p : Primitive)
  | array (form : Form) (items : FieldType)
  | struct (schema : Schema)

/-- A named field. -/
structure Field where
  name : String
  type : FieldType

/-- A named list of fields. -/
structure Schema where
  name : String
  fields : List Field

end

mutual

/-- Equality of types can be decided. -/
def FieldType.decEq : (a b : FieldType) → Decidable (a = b)
  | .primitive p, .primitive q =>
    if h : p = q then isTrue (h ▸ rfl) else isFalse fun e => h (FieldType.primitive.inj e)
  | .array f t, .array g u =>
    if h : f = g then
      match FieldType.decEq t u with
      | isTrue h' => isTrue (h ▸ h' ▸ rfl)
      | isFalse h' => isFalse fun e => h' (FieldType.array.inj e).2
    else isFalse fun e => h (FieldType.array.inj e).1
  | .struct s, .struct t =>
    match Schema.decEq s t with
    | isTrue h => isTrue (h ▸ rfl)
    | isFalse h => isFalse fun e => h (FieldType.struct.inj e)
  | .primitive _, .array .. => isFalse nofun
  | .primitive _, .struct _ => isFalse nofun
  | .array .., .primitive _ => isFalse nofun
  | .array .., .struct _ => isFalse nofun
  | .struct _, .primitive _ => isFalse nofun
  | .struct _, .array .. => isFalse nofun
termination_by structural a => a

/-- Equality of fields can be decided. -/
def Field.decEq : (a b : Field) → Decidable (a = b)
  | ⟨m, t⟩, ⟨n, u⟩ =>
    if h : m = n then
      match FieldType.decEq t u with
      | isTrue h' => isTrue (h ▸ h' ▸ rfl)
      | isFalse h' => isFalse fun e => h' (Field.mk.inj e).2
    else isFalse fun e => h (Field.mk.inj e).1
termination_by structural a => a

/-- Equality of schemas can be decided. -/
def Schema.decEq : (a b : Schema) → Decidable (a = b)
  | ⟨m, fs⟩, ⟨n, gs⟩ =>
    if h : m = n then
      match Field.decEqList fs gs with
      | isTrue h' => isTrue (h ▸ h' ▸ rfl)
      | isFalse h' => isFalse fun e => h' (Schema.mk.inj e).2
    else isFalse fun e => h (Schema.mk.inj e).1
termination_by structural a => a

/-- Equality of lists of fields can be decided. -/
def Field.decEqList : (a b : List Field) → Decidable (a = b)
  | [], [] => isTrue rfl
  | [], _ :: _ => isFalse nofun
  | _ :: _, [] => isFalse nofun
  | f :: fs, g :: gs =>
    match Field.decEq f g with
    | isTrue h =>
      match Field.decEqList fs gs with
      | isTrue h' => isTrue (h ▸ h' ▸ rfl)
      | isFalse h' => isFalse fun e => h' (List.cons.inj e).2
    | isFalse h => isFalse fun e => h (List.cons.inj e).1
termination_by structural a => a

end

instance : DecidableEq FieldType := FieldType.decEq
instance : DecidableEq Field := Field.decEq
instance : DecidableEq Schema := Schema.decEq

/-- How messages name a type. -/
def FieldType.name : FieldType → String
  | .primitive p => p.name
  | .array .classic _ => "array"
  | .array .compact _ => "compact array"
  | .struct _ => "struct"

namespace Schema

/-- The first of the names that repeats one of `seen` or one before it. -/
def firstRepeat (seen : List String) : List String → Option String
  | [] => none
  | name :: names => if name ∈ seen then some name else firstRepeat (name :: seen) names

/-- The schema with these fields, unless two of them have the same name. -/
def build? (name : String) (fields : List Field) : Except Error Schema :=
  match firstRepeat [] (fields.map (·.name)) with
  | some field => .error (.schemaEncoding (.duplicateField field name))
  | none => .ok ⟨name, fields⟩

/-- The position of the field with the name. -/
def indexOf? (schema : Schema) (name : String) : Option Nat :=
  schema.fields.findIdx? (·.name == name)

end Schema

end KafkaWire
