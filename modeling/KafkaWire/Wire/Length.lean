import KafkaWire.Wire.Output
import KafkaWire.Wire.Reader

/-!
# Length prefixes

Arrays, texts and byte strings begin with their length, or with a mark that says that there is no
value at all. Classic lengths are signed integers, 16 bits wide for texts and 32 bits for the
rest, with `-1` for null. Compact lengths are unsigned varints of the length plus one, with `0`
for null. Reading checks a length before anything of that length is built: array counts must not
exceed `maxItems`, nor the bytes that are left, since every element takes at least one.

## Main definitions

* `Length.write`, `Length.writeNull` — a length, or the mark for null
* `Length.read` — a length or `none` for null
-/

namespace KafkaWire

namespace Length

/-- Writes a length, unless it is above the limit for what it counts. -/
def write (what : Counted) (form : Form) (length : Nat) : Output :=
  if what.writeLimit < length then .fail (.packetEncoding (.tooLong what length))
  else
    match form, what with
    | .compact, _ => .chunk (.uvarint (UInt64.ofNat (length + 1)))
    | .classic, .text => .chunk (.int16 (Int16.ofNat length))
    | .classic, _ => .chunk (.int32 (Int32.ofNat length))

/-- Writes the mark for null. -/
def writeNull (what : Counted) (form : Form) : Output :=
  match form, what with
  | .compact, _ => .chunk (.uvarint 0)
  | .classic, .text => .chunk (.int16 (-1))
  | .classic, _ => .chunk (.int32 (-1))

/-- The largest length that reading admits. -/
def readLimit : Counted → Nat
  | .items => maxItems
  | .text | .data => 0x7fffffff

/-- How a refused length is reported, in 64 bits: one that does not fit wraps around, and as an
array count becomes `-1`. -/
def reported (what : Counted) (length : Int) : Int :=
  if length < 0x8000000000000000 then length
  else
    match what with
    | .items => -1
    | .text | .data => length - 0x10000000000000000

/-- The number that stands for a length, before any check. -/
def readNumber (what : Counted) (form : Form) : Reader (Option Int) := do
  match form, what with
  | .compact, _ =>
    let n ← Reader.uvarint
    return if n = 0 then none else some (n.toNat - 1 : Nat)
  | .classic, .text =>
    let n ← Reader.int16
    return if n = -1 then none else some n.toInt
  | .classic, _ =>
    let n ← Reader.int32
    return if n = -1 then none else some n.toInt

/-- Reads a length, or `none` for null. -/
def read (what : Counted) (form : Form) : Reader (Option Nat) := do
  match ← readNumber what form with
  | none => return none
  | some n =>
    if n < 0 ∨ readLimit what < n then
      throw (.invalidLength what (reported what n))
    if what = .items then
      Reader.require n.toNat
    return some n.toNat

/-- Reads a length where null is not allowed. -/
def readPresent (what : Counted) (form : Form) : Reader Nat := do
  match ← read what form with
  | some n => return n
  | none => throw (.invalidLength what (-1))

end Length

end KafkaWire
