import KafkaWire.Wire.Primitive

/-!
# Formats

The description of a value on the wire, from which both its writer and its reader come. Formats
are built from primitive types by arrays, by sequence, and by naming the parts of a record, with
two provisions for messages that changed over time: a part that a version lacks is not written
and reads as a fixed value, and a part that may be missing in memory but not on the wire is
written as an empty one.

## Main definitions

* `Format` — descriptions of values of a type
* `Format.write`, `Format.read` — the values on the wire
* `Format.since` — a part that versions have from some version on
-/

namespace KafkaWire

/-- A description of values on the wire. -/
inductive Format : Type → Type 1
  /-- A primitive type. -/
  | primitive (p : Primitive) : Format p.Carrier
  /-- An array, where null reads as the empty list. -/
  | array {α : Type} (form : Form) (items : Format α) : Format (List α)
  /-- An array or null. -/
  | nullableArray {α : Type} (form : Form) (items : Format α) : Format (Option (List α))
  /-- One value after another. -/
  | pair {α β : Type} (first : Format α) (second : Format β) : Format (α × β)
  /-- A part on the wire only if `present`; otherwise it reads as `absent`. -/
  | onlyIf {α : Type} (present : Bool) (part : Format α) (absent : α) : Format α
  /-- A part that is always on the wire, where a missing value is written as `empty`. -/
  | required {α : Type} (part : Format α) (empty : α) : Format (Option α)
  /-- A record, of which `parts` describes the tuple of its fields. -/
  | record {α β : Type} (make : α → β) (fields : β → α) (fields_make : ∀ a, fields (make a) = a)
      (make_fields : ∀ b, make (fields b) = b) (parts : Format α) : Format β

namespace Format

/-- Writes a value. -/
def write {α : Type} : Format α → α → Output
  | .primitive p, x => p.write x
  | .array form items, xs => Length.write .items form xs.length ++ .forEach items.write xs
  | .nullableArray form _, none => Length.writeNull .items form
  | .nullableArray form items, some xs =>
    Length.write .items form xs.length ++ .forEach items.write xs
  | .pair first second, (x, y) => first.write x ++ second.write y
  | .onlyIf present part _, x => if present then part.write x else .empty
  | .required part empty, x => part.write (x.getD empty)
  | .record _ fields _ _ parts, x => parts.write (fields x)

/-- Reads a value. -/
def read {α : Type} : Format α → Reader α
  | .primitive p => p.read
  | .array form items => do
    match ← Length.read .items form with
    | some length => Reader.count length items.read
    | none => return []
  | .nullableArray form items => do
    match ← Length.read .items form with
    | some length => return some (← Reader.count length items.read)
    | none => return none
  | .pair first second => do return (← first.read, ← second.read)
  | .onlyIf present part absent => if present then part.read else pure absent
  | .required part _ => do return some (← part.read)
  | .record make _ _ _ parts => do return make (← parts.read)

/-! ### Primitive types as formats -/

/-- A boolean. -/
def bool : Format Bool := .primitive .bool

/-- An 8-bit integer. -/
def int8 : Format Int8 := .primitive .int8

/-- A 16-bit integer. -/
def int16 : Format Int16 := .primitive .int16

/-- A 32-bit integer. -/
def int32 : Format Int32 := .primitive .int32

/-- A 64-bit integer. -/
def int64 : Format Int64 := .primitive .int64

/-- A UUID. -/
def uuid : Format Uuid := .primitive .uuid

/-- A text, never null. -/
def string (form : Form) : Format String := .primitive (.string form)

/-- A text or null. -/
def nullableString (form : Form) : Format (Option String) := .primitive (.nullableString form)

/-- Bytes or null. -/
def nullableBytes (form : Form) : Format (Option Bytes) := .primitive (.nullableBytes form)

/-- A tag buffer, in whatever version. -/
def tagBuffer : Format TagBuffer := .primitive .tagBuffer

/-! ### Parts that depend on the version -/

/-- A part of all versions from `first` on. -/
def since {α : Type} (version first : Int16) (part : Format α) (absent : α) : Format α :=
  .onlyIf (first ≤ version) part absent

/-- A part of all versions up to `last`. -/
def upTo {α : Type} (version last : Int16) (part : Format α) (absent : α) : Format α :=
  .onlyIf (version ≤ last) part absent

/-- A part of the versions between `first` and `last`. -/
def within {α : Type} (version first last : Int16) (part : Format α) (absent : α) : Format α :=
  .onlyIf (first ≤ version && version ≤ last) part absent

/-- The tag buffer that ends every struct of a flexible version. -/
def tags (form : Form) : Format TagBuffer :=
  .onlyIf (form = .compact) tagBuffer {}

end Format

end KafkaWire
