import KafkaWire.Wire.BigEndian
import KafkaWire.Wire.Varint

/-!
# Readers

A reader takes a value off the front of some bytes and returns it with the bytes after it, or an
error. The readers here are those of the fixed-width integers, booleans and varints, and those
from which the readers of longer values are built. Whether enough bytes are left is always found
by looking at no more bytes than are asked for.

## Main definitions

* `Reader` — a reader of values of some type
* `Reader.require`, `Reader.take` — demanding and taking a number of bytes
* `Reader.count` — a number of values, one after another
* `Reader.all` — a value that is all there is
* `Reader.fill` — a variable that is assigned from a complete buffer
-/

namespace KafkaWire

/-- Takes a value off the front of some bytes. -/
abbrev Reader (α : Type) := StateT Bytes (Except Error) α

/-- Whether there are at least that many bytes. -/
def hasAtLeast : Nat → Bytes → Bool
  | 0, _ => true
  | _ + 1, [] => false
  | n + 1, _ :: bs => hasAtLeast n bs

@[simp] theorem hasAtLeast_iff {n : Nat} {bs : Bytes} : hasAtLeast n bs = true ↔ n ≤ bs.length := by
  induction n generalizing bs with
  | zero => simp [hasAtLeast]
  | succ n ih => cases bs <;> simp [hasAtLeast, ih]

namespace Reader

/-- Demands that at least `n` bytes are left, and takes none. -/
def require (n : Nat) : Reader Unit := fun bs =>
  if hasAtLeast n bs then .ok ((), bs) else .error .insufficientData

/-- Takes exactly `n` bytes. -/
def takeExactly (n : Nat) : Reader { bytes : Bytes // bytes.length = n } := fun bs =>
  if h : hasAtLeast n bs = true then
    .ok (⟨bs.take n, List.length_take_of_le (hasAtLeast_iff.1 h)⟩, bs.drop n)
  else .error .insufficientData

/-- Takes `n` bytes. -/
def take (n : Nat) : Reader Bytes := do
  return (← takeExactly n).val

/-- Takes `n` bytes without keeping them. -/
def skip (n : Nat) : Reader Unit := do
  discard <| take n

/-! ### Integers and booleans -/

/-- One byte. -/
def byte : Reader UInt8 := do
  return UInt8.ofNat (ofBigEndian (← take 1))

/-- An 8-bit integer. -/
def int8 : Reader Int8 := do
  return (UInt8.ofNat (ofBigEndian (← take 1))).toInt8

/-- A 16-bit integer, most significant byte first. -/
def int16 : Reader Int16 := do
  return (UInt16.ofNat (ofBigEndian (← take 2))).toInt16

/-- A 32-bit integer. -/
def int32 : Reader Int32 := do
  return (UInt32.ofNat (ofBigEndian (← take 4))).toInt32

/-- A 64-bit integer. -/
def int64 : Reader Int64 := do
  return (UInt64.ofNat (ofBigEndian (← take 8))).toInt64

/-- One byte, zero or one. -/
def bool : Reader Bool := do
  match ← byte with
  | 0 => return false
  | 1 => return true
  | _ => throw .invalidBool

/-- An unsigned varint. -/
def uvarint : Reader UInt64 := Varint.read

/-- A zigzag varint. -/
def varint : Reader Int64 := do
  return unzigzag (← uvarint)

/-- An unsigned varint that fits 32 bits, as tags and sizes do. -/
def uvarint32 : Reader UInt32 := do
  let n ← uvarint
  if n.toNat < UInt32.size then return n.toUInt32 else throw .invalidVarint

/-! ### Repetition and whole buffers -/

/-- Reads `n` more values behind those already read, which are kept last first. -/
def countInto {α : Type} (r : Reader α) : Nat → List α → Bytes → Except Error (List α × Bytes)
  | 0, done, bs => .ok (done.reverse, bs)
  | n + 1, done, bs =>
    match r bs with
    | .ok (a, rest) => countInto r n (a :: done) rest
    | .error e => .error e

/-- Reads `n` values, one after another. -/
def count {α : Type} (n : Nat) (r : Reader α) : Reader (List α) := countInto r n []

/-- The value that a complete buffer spells. Bytes left over are an error. -/
def all {α : Type} (r : Reader α) (bs : Bytes) : Except Error α := do
  let (a, rest) ← r bs
  if rest.length ≠ 0 then throw (.packetDecoding (.leftover rest.length))
  return a

/-- Assigns a variable, which holds `old`, from a complete buffer: the value it holds then, and
how the reading ended. Leftover bytes are noticed only after the assignment. -/
def fill {α : Type} (r : Reader α) (old : α) (bs : Bytes) : α × Except Error Unit :=
  match r bs with
  | .error e => (old, .error e)
  | .ok (a, []) => (a, .ok ())
  | .ok (a, rest) => (a, .error (.packetDecoding (.leftover rest.length)))

theorem countInto_eq {α : Type} (r : Reader α) (n : Nat) (done : List α) (bs : Bytes) :
    countInto r n done bs =
      match count n r bs with
      | .ok (values, rest) => .ok (done.reverse ++ values, rest)
      | .error e => .error e := by
  induction n generalizing done bs with
  | zero => simp [count, countInto]
  | succ n ih =>
    simp only [count, countInto]
    cases r bs with
    | error e => rfl
    | ok p =>
      simp only
      rw [ih, ih [p.1]]
      cases count n r p.2 <;> simp

theorem count_zero {α : Type} (r : Reader α) (bs : Bytes) : count 0 r bs = .ok ([], bs) := rfl

theorem count_succ {α : Type} (n : Nat) (r : Reader α) (bs : Bytes) :
    count (n + 1) r bs =
      match r bs with
      | .ok (a, rest) =>
        match count n r rest with
        | .ok (values, rest) => .ok (a :: values, rest)
        | .error e => .error e
      | .error e => .error e := by
  simp only [count, countInto]
  cases r bs with
  | error e => rfl
  | ok p => exact countInto_eq r n [p.1] p.2

end Reader

end KafkaWire
