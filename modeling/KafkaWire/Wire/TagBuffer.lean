import KafkaWire.Wire.Output
import KafkaWire.Wire.Reader

/-!
# Tag buffers

Every struct of a flexible version ends with a tag buffer: a number of fields, each a tag, a size
and that many bytes, none of which is interpreted. Reading demands strictly ascending tags.
Inserting keeps them so; fields may also be appended without regard to order, and writing takes
them as they stand.

## Main definitions

* `TagBuffer` — the fields, in order
* `TagBuffer.get?`, `TagBuffer.insert`, `TagBuffer.push` — access by tag
* `TagBuffer.write`, `TagBuffer.read` — on the wire
-/

namespace KafkaWire

/-- An uninterpreted field. -/
structure TagField where
  tag : UInt32
  data : Bytes
  deriving DecidableEq, Repr, Inhabited

/-- The tagged fields at the end of a struct, none in the common case. -/
structure TagBuffer where
  fields : List TagField := []
  deriving DecidableEq, Repr, Inhabited

namespace TagBuffer

/-- The number of fields. -/
def size (t : TagBuffer) : Nat := t.fields.length

/-- Whether there is no field. -/
def isEmpty (t : TagBuffer) : Bool := t.fields.isEmpty

/-- The data of the first field with the tag. -/
def get? (t : TagBuffer) (tag : UInt32) : Option Bytes :=
  (t.fields.find? (·.tag == tag)).map (·.data)

/-- Appends a field, whatever its tag. -/
def push (t : TagBuffer) (tag : UInt32) (data : Bytes) : TagBuffer :=
  ⟨t.fields ++ [⟨tag, data⟩]⟩

/-- Narrows a range of `size` positions from `base` on by halving, down to a single position. In
ascending fields it is that of the last tag not above the wanted one, if there is such a tag in
the range. -/
def seek (fields : List TagField) (tag : UInt32) (base size : Nat) : Nat :=
  if size ≤ 1 then base
  else
    let middle := base + size / 2
    let above := match fields[middle]? with
      | some field => decide (tag < field.tag)
      | none => true
    seek fields tag (if above then base else middle) (size - size / 2)
termination_by size

/-- Adds a field, or replaces the data of the field with that tag. Ascending tags stay
ascending. -/
def insert (t : TagBuffer) (tag : UInt32) (data : Bytes) : TagBuffer :=
  let position := seek t.fields tag 0 t.fields.length
  match t.fields[position]? with
  | none => ⟨[⟨tag, data⟩]⟩
  | some field =>
    if field.tag = tag then ⟨t.fields.set position ⟨field.tag, data⟩⟩
    else if field.tag < tag then ⟨t.fields.insertIdx (position + 1) ⟨tag, data⟩⟩
    else ⟨t.fields.insertIdx position ⟨tag, data⟩⟩

/-! ### On the wire -/

/-- One field: its tag, its size and its data. -/
def writeField (field : TagField) : Output :=
  .chunk (.uvarint field.tag.toUInt64) ++ .chunk (.uvarint (UInt64.ofNat field.data.length)) ++
    .chunk (.raw field.data)

/-- The number of fields and the fields as they stand. -/
def write (t : TagBuffer) : Output :=
  .chunk (.uvarint (UInt64.ofNat t.fields.length)) ++ Output.forEach writeField t.fields

/-- Reads one field, whose tag must exceed the one before it. -/
def readField (last : Option UInt32) : Reader TagField := do
  let tag ← Reader.uvarint32
  match last with
  | some last => if tag ≤ last then throw (.packetDecoding (.tagOrder tag last))
  | none => pure ()
  let size ← Reader.uvarint32
  let data ← Reader.take size.toNat
  return ⟨tag, data⟩

/-- Reads `n` more fields behind those already read, which are kept last first. -/
def readFieldsInto : Nat → List TagField → Bytes → Except Error (List TagField × Bytes)
  | 0, done, bs => .ok (done.reverse, bs)
  | n + 1, done, bs =>
    match readField (done.head?.map (·.tag)) bs with
    | .ok (field, rest) => readFieldsInto n (field :: done) rest
    | .error e => .error e

/-- Reads a tag buffer. The number of fields must not exceed `maxItems`, and each field takes at
least two bytes. -/
def read : Reader TagBuffer := do
  let count ← Reader.uvarint
  if maxItems < count.toNat then
    throw (.invalidLength .items (min count.toNat 0x7fffffffffffffff : Nat))
  Reader.require (2 * count.toNat)
  return ⟨← readFieldsInto count.toNat []⟩

end TagBuffer

end KafkaWire
