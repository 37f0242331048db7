import KafkaWire.Wire.Length
import KafkaWire.Wire.TagBuffer

/-!
# Primitive types

The types whose values the protocol spells without reference to other types. Several of them
may hold the same values and differ only in how these are written, as compact and classic texts
do, so each has a kind, which fixes its values.

## Main definitions

* `Primitive.Kind` — a set of values, `Primitive.Kind.Carrier`
* `Primitive` — a kind and the form in which its values are written
* `Primitive.write`, `Primitive.read` — the values on the wire
-/

namespace KafkaWire

namespace Primitive

/-- What the values of a primitive type are. -/
inductive Kind
  | bool
  | int8
  | int16
  | int32
  | int64
  | uvarint
  | varint
  | uuid
  | string
  | nullableString
  | bytes
  | nullableBytes
  | tagBuffer
  deriving DecidableEq, Repr

/-- The values of a kind. -/
@[reducible] def Kind.Carrier : Kind → Type
  | .bool => Bool
  | .int8 => Int8
  | .int16 => Int16
  | .int32 => Int32
  | .int64 => Int64
  | .uvarint => UInt64
  | .varint => Int64
  | .uuid => Uuid
  | .string => String
  | .nullableString => Option String
  | .bytes => Bytes
  | .nullableBytes => Option Bytes
  | .tagBuffer => TagBuffer

/-- How messages name a kind. -/
def Kind.name : Kind → String
  | .bool => "bool"
  | .int8 => "int8"
  | .int16 => "int16"
  | .int32 => "int32"
  | .int64 => "int64"
  | .uvarint => "uvarint"
  | .varint => "varint"
  | .uuid => "uuid"
  | .string => "string"
  | .nullableString => "nullable string"
  | .bytes => "bytes"
  | .nullableBytes => "nullable bytes"
  | .tagBuffer => "tagged fields"

end Primitive

/-- A primitive type: values of one kind in one written form. -/
inductive Primitive
  | bool
  | int8
  | int16
  | int32
  | int64
  /-- An unsigned varint of 64 bits. -/
  | uvarint
  /-- A zigzag varint of 64 bits. -/
  | varint
  | uuid
  | string (form : Form)
  | nullableString (form : Form)
  | bytes (form : Form)
  | nullableBytes (form : Form)
  /-- A set of records, opaque here, written as classic nullable bytes. -/
  | messageSet
  | tagBuffer
  deriving DecidableEq, Repr

namespace Primitive

/-- The kind of a type's values. -/
@[reducible] def kind : Primitive → Kind
  | .bool => .bool
  | .int8 => .int8
  | .int16 => .int16
  | .int32 => .int32
  | .int64 => .int64
  | .uvarint => .uvarint
  | .varint => .varint
  | .uuid => .uuid
  | .string _ => .string
  | .nullableString _ => .nullableString
  | .bytes _ => .bytes
  | .nullableBytes _ => .nullableBytes
  | .messageSet => .nullableBytes
  | .tagBuffer => .tagBuffer

/-- The values of a type. -/
abbrev Carrier (p : Primitive) : Type := p.kind.Carrier

/-- How messages name a type. -/
def name : Primitive → String
  | .string .compact => "compact string"
  | .nullableString .compact => "compact nullable string"
  | .bytes .compact => "compact bytes"
  | .nullableBytes .compact => "compact nullable bytes"
  | .messageSet => "message set"
  | p => p.kind.name

/-! ### Writing -/

/-- The bytes of a text in UTF-8. -/
def textBytes (s : String) : Bytes := s.toUTF8.data.toList

/-- A text behind its length. -/
def writeText (form : Form) (s : String) : Output :=
  Length.write .text form s.utf8ByteSize ++ .chunk (.raw (textBytes s))

/-- A byte string behind its length. -/
def writeData (form : Form) (bs : Bytes) : Output :=
  Length.write .data form bs.length ++ .chunk (.raw bs)

/-- A value, or the mark for null. -/
def writeNullable {α : Type} (what : Counted) (form : Form) (write : α → Output) :
    Option α → Output
  | some a => write a
  | none => Length.writeNull what form

/-- Writes a value of a primitive type. -/
def write : (p : Primitive) → p.Carrier → Output
  | .bool, b => .chunk (.int8 (if b then 1 else 0))
  | .int8, n => .chunk (.int8 n)
  | .int16, n => .chunk (.int16 n)
  | .int32, n => .chunk (.int32 n)
  | .int64, n => .chunk (.int64 n)
  | .uvarint, n => .chunk (.uvarint n)
  | .varint, n => .chunk (.uvarint (zigzag n))
  | .uuid, id => .chunk (.raw id.val)
  | .string form, s => writeText form s
  | .nullableString form, s => writeNullable .text form (writeText form) s
  | .bytes form, bs => writeData form bs
  | .nullableBytes form, bs => writeNullable .data form (writeData form) bs
  | .messageSet, bs => writeNullable .data .classic (writeData .classic) bs
  | .tagBuffer, tags => tags.write

/-! ### Reading -/

/-- Takes a text of that many bytes. -/
def takeText (length : Nat) : Reader String := do
  match String.fromUTF8? (← Reader.take length).toByteArray with
  | some s => return s
  | none => throw .invalidUtf8

/-- Reads a length and what it counts, or the mark for null. -/
def readNullable {α : Type} (what : Counted) (form : Form) (take : Nat → Reader α) :
    Reader (Option α) := do
  match ← Length.read what form with
  | some length => return some (← take length)
  | none => return none

/-- Reads a value of a primitive type. -/
def read : (p : Primitive) → Reader p.Carrier
  | .bool => Reader.bool
  | .int8 => Reader.int8
  | .int16 => Reader.int16
  | .int32 => Reader.int32
  | .int64 => Reader.int64
  | .uvarint => Reader.uvarint
  | .varint => Reader.varint
  | .uuid => Reader.takeExactly 16
  | .string form => do takeText (← Length.readPresent .text form)
  | .nullableString form => readNullable .text form takeText
  | .bytes form => do Reader.take (← Length.readPresent .data form)
  | .nullableBytes form => readNullable .data form Reader.take
  | .messageSet => readNullable .data .classic Reader.take
  | .tagBuffer => TagBuffer.read

end Primitive

end KafkaWire
