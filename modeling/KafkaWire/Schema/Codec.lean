import KafkaWire.Schema.Struct

/-!
# Structs on the wire

A struct is written and read field by field as its schema says. Writing checks the struct
against its schema on the way: one value for each field, each of the kind that the field's type
takes, nested structs of the very schema that the type names.

## Main definitions

* `FieldType.write`, `FieldType.read` — values by their type
* `Struct.write`, `Schema.read` — structs by their schema
* `Schema.encode`, `Schema.decode` — a struct as a complete buffer
-/

namespace KafkaWire

mutual

/-- Writes the value of the field `field`. -/
def FieldType.write (field : String) : FieldType → Value → Output
  | .primitive p, value =>
    match value.as? p.kind with
    | some x => p.write x
    | none => .fail (mismatch p.name value.kind.name)
  | .array form _, .array none => Length.writeNull .items form
  | .array form items, .array (some values) =>
    Length.write .items form values.length ++ .forEach (items.write field) values
  | .struct schema, .struct value =>
    if value.schema = schema then schema.writeValues value.values
    else .fail (.schemaEncoding (.wrongStruct field schema.name value.schema.name))
  | .array form items, value => .fail (mismatch (FieldType.array form items).name value.kind.name)
  | .struct _, value => .fail (mismatch "struct" value.kind.name)
where
  /-- The error of finding a value of the wrong kind. -/
  mismatch (expected found : String) : Error :=
    .schemaEncoding (.wrongKind field expected found)

/-- Writes one value for each field of a schema. -/
def Schema.writeValues : Schema → List Value → Output
  | ⟨name, fields⟩, values =>
    if fields.length = values.length then Field.writeEach fields values
    else .fail (.schemaEncoding (.valueCount name values.length fields.length))

/-- Writes fields and values in step. -/
def Field.writeEach : List Field → List Value → Output
  | [], _ => .empty
  | _, [] => .empty
  | field :: fields, value :: values => field.write value ++ Field.writeEach fields values

/-- Writes the value of a field. -/
def Field.write : Field → Value → Output
  | ⟨name, type⟩, value => type.write name value

end

/-- Writes a struct by its own schema. -/
def Struct.write (s : Struct) : Output := s.schema.writeValues s.values

mutual

/-- Reads a value of a type. -/
def FieldType.read : FieldType → Reader Value
  | .primitive p => do return .primitive p.kind (← p.read)
  | .array form items => do
    match ← Length.read .items form with
    | some length => return .array (some (← Reader.count length items.read))
    | none => return .array none
  | .struct schema => do return .struct (← schema.read)

/-- Reads a struct of a schema. -/
def Schema.read : Schema → Reader Struct
  | ⟨name, fields⟩ => do return ⟨⟨name, fields⟩, ← Field.readEach fields⟩

/-- Reads one value for each field. -/
def Field.readEach : List Field → Reader (List Value)
  | [] => return []
  | field :: fields => do return (← field.read) :: (← Field.readEach fields)

/-- Reads the value of a field. -/
def Field.read : Field → Reader Value
  | ⟨_, type⟩ => type.read

end

namespace Schema

/-- The struct that a complete buffer spells. -/
def decode (schema : Schema) (bs : Bytes) : Except Error Struct := do
  let (s, rest) ← schema.read bs
  if rest.length ≠ 0 then throw (.schemaDecoding (.leftover rest.length schema.name))
  return s

/-- The bytes of a struct, which must be of this schema. -/
def encode (schema : Schema) (s : Struct) : Except Error Bytes :=
  if s.schema = schema then s.write.encode
  else .error (.schemaEncoding (.writtenAs s.schema.name schema.name))

end Schema

end KafkaWire
