/-!
# Words of the wire protocol

The nouns that every layer shares: byte strings, the two forms in which lengths are written, what
a length counts, and the 16-byte identifiers.

## Main definitions

* `Bytes` — a byte string
* `Form` — classic lengths of fixed width, or compact lengths as varints
* `Counted` — what a length prefix counts, with the limits that go with it
* `Uuid` — exactly sixteen bytes
-/

namespace KafkaWire

/-- A byte string, first byte on the wire first. -/
abbrev Bytes := List UInt8

/-- How the lengths of a message version are written. -/
inductive Form
  /-- Fixed-width signed lengths, `-1` for null. -/
  | classic
  /-- Unsigned varints of the length plus one, `0` for null. -/
  | compact
  deriving DecidableEq, Repr

/-- The form of a message version: compact from the first flexible version on. -/
def Form.of (version firstFlexible : Int16) : Form :=
  if firstFlexible ≤ version then .compact else .classic

/-- What a length prefix counts. -/
inductive Counted
  /-- The elements of an array. -/
  | items
  /-- The bytes of a text in UTF-8. -/
  | text
  /-- The bytes of an opaque byte string. -/
  | data
  deriving DecidableEq, Repr

namespace Counted

/-- The longest length that can be written, in either form: texts are counted by 16-bit signed
integers, all else by 32-bit ones. -/
def writeLimit : Counted → Nat
  | .text => 0x7fff
  | .items | .data => 0x7fffffff

/-- The name of the integer type that counts. -/
def widthName : Counted → String
  | .text => "i16"
  | .items | .data => "i32"

/-- How error messages name the counted thing. -/
def name : Counted → String
  | .items => "array"
  | .text => "string"
  | .data => "byteslice"

end Counted

/-- The largest number of elements that reading admits in an array or a tag buffer. -/
def maxItems : Nat := 2 * 65535

/-- A 16-byte identifier. -/
abbrev Uuid := { bytes : Bytes // bytes.length = 16 }

/-- The identifier whose bytes are all zero. -/
def Uuid.zero : Uuid := ⟨List.replicate 16 0, rfl⟩

instance : Inhabited Uuid := ⟨Uuid.zero⟩

end KafkaWire
