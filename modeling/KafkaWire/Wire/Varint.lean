import KafkaWire.Error

/-!
# Varints

An unsigned varint spells a 64-bit number in base 128, least significant digit first, one digit
a byte, with the high bit set on every byte but the last. A signed varint is the unsigned one of
the zigzag image, which maps numbers of small magnitude to small numbers.

Reading admits spellings with superfluous zero digits, up to ten bytes; writing never produces
one.

## Main definitions

* `Varint.bytes`, `Varint.size` — the shortest spelling of a number and its length
* `Varint.read` — the number spelled at the front of some bytes, with what follows it
* `zigzag`, `unzigzag` — the bijection between signed and unsigned numbers
-/

namespace KafkaWire

namespace Varint

/-- The most bytes that a spelling can have: ten digits of seven bits cover 64 bits. -/
def maxBytes : Nat := 10

/-- The shortest spelling of `n` in at most `more + 1` bytes. -/
def spell : (more n : Nat) → Bytes
  | 0, n => [UInt8.ofNat n]
  | more + 1, n =>
    if n < 128 then [UInt8.ofNat n] else UInt8.ofNat (n % 128 + 128) :: spell more (n / 128)

/-- The number of digits of `n` in base 128, counting at most `more + 1` of them. -/
def digits : (more n : Nat) → Nat
  | 0, _ => 1
  | more + 1, n => if n < 128 then 1 else digits more (n / 128) + 1

/-- The shortest spelling of a 64-bit number. -/
def bytes (n : UInt64) : Bytes := spell (maxBytes - 1) n.toNat

/-- The number of bytes in the shortest spelling. -/
def size (n : UInt64) : Nat := digits (maxBytes - 1) n.toNat

/-- The number spelled at the front, of which `more + 1` digits may still come. The last of ten
digits has a single bit left in 64 and ends the spelling. -/
def readFrom : (more : Nat) → Bytes → Except Error (Nat × Bytes)
  | _, [] => .error .insufficientData
  | 0, b :: rest => if 1 < b then .error .invalidVarint else .ok (b.toNat, rest)
  | more + 1, b :: rest =>
    if b < 128 then .ok (b.toNat, rest)
    else
      match readFrom more rest with
      | .ok (n, rest) => .ok (b.toNat - 128 + 128 * n, rest)
      | .error e => .error e

/-- The 64-bit number spelled at the front, with the bytes after it. -/
def read (bs : Bytes) : Except Error (UInt64 × Bytes) :=
  match readFrom (maxBytes - 1) bs with
  | .ok (n, rest) => .ok (UInt64.ofNat n, rest)
  | .error e => .error e

theorem length_spell (more n : Nat) : (spell more n).length = digits more n := by
  induction more generalizing n with
  | zero => rfl
  | succ more ih =>
    rw [spell, digits]
    split
    · rfl
    · rw [List.length_cons, ih]

@[simp] theorem length_bytes (n : UInt64) : (bytes n).length = size n :=
  length_spell _ _

end Varint

/-- Numbers of either sign as natural ones: `0, -1, 1, -2, 2, …` become `0, 1, 2, 3, 4, …`. -/
def zigzag (n : Int64) : UInt64 :=
  if 0 ≤ n.toInt then UInt64.ofNat (2 * n.toInt.toNat)
  else UInt64.ofNat (2 * (-n.toInt - 1).toNat + 1)

/-- The number of which the given one is the zigzag image. -/
def unzigzag (n : UInt64) : Int64 :=
  if n.toNat % 2 = 0 then Int64.ofInt (n.toNat / 2 : Nat)
  else Int64.ofInt (-(n.toNat / 2 : Nat) - 1)

end KafkaWire
