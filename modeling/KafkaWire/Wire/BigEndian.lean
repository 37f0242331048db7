import KafkaWire.Wire.Basic

/-!
# Big-endian integers

All fixed-width integers of the protocol are in two's complement, most significant byte first.

## Main definitions

* `byteWeight` — how much a byte counts, by its place
* `toBigEndian` — the bytes of a natural number, to a given width
* `ofBigEndian` — the natural number that bytes spell

## Main results

* `ofBigEndian_toBigEndian` — they are inverse up to the width
* `toBigEndian_ofBigEndian` — and exactly inverse on bytes
-/

namespace KafkaWire

/-- How much a byte counts that has `width` bytes behind it. -/
def byteWeight : Nat → Nat
  | 0 => 1
  | width + 1 => byteWeight width * 256

/-- The `width` big-endian bytes of `n`; higher digits are dropped. -/
def toBigEndian : Nat → Nat → Bytes
  | 0, _ => []
  | width + 1, n => UInt8.ofNat (n / byteWeight width) :: toBigEndian width n

/-- The number that big-endian bytes spell. -/
def ofBigEndian : Bytes → Nat
  | [] => 0
  | b :: bs => b.toNat * byteWeight bs.length + ofBigEndian bs

theorem byteWeight_pos (width : Nat) : 0 < byteWeight width := by
  induction width with
  | zero => exact Nat.one_pos
  | succ width ih => exact Nat.mul_pos ih (by decide)

@[simp] theorem length_toBigEndian (width n : Nat) : (toBigEndian width n).length = width := by
  induction width with
  | zero => rfl
  | succ width ih => simp [toBigEndian, ih]

theorem ofBigEndian_toBigEndian (width n : Nat) :
    ofBigEndian (toBigEndian width n) = n % byteWeight width := by
  induction width with
  | zero => exact (Nat.mod_one n).symm
  | succ width ih =>
    have h : n % byteWeight (width + 1) =
        n % byteWeight width + byteWeight width * (n / byteWeight width % 256) :=
      Nat.mod_mul
    rw [toBigEndian, ofBigEndian, ih, length_toBigEndian, UInt8.toNat_ofNat', h, Nat.mul_comm,
      Nat.add_comm]

theorem ofBigEndian_lt (bs : Bytes) : ofBigEndian bs < byteWeight bs.length := by
  induction bs with
  | nil => exact Nat.one_pos
  | cons b bs ih =>
    have hb : b.toNat + 1 ≤ 256 := b.toNat_lt
    calc ofBigEndian (b :: bs)
        < b.toNat * byteWeight bs.length + byteWeight bs.length := by rw [ofBigEndian]; omega
      _ = (b.toNat + 1) * byteWeight bs.length := by rw [Nat.add_mul, Nat.one_mul]
      _ ≤ 256 * byteWeight bs.length := Nat.mul_le_mul_right _ hb
      _ = byteWeight (b :: bs).length := by rw [List.length_cons, byteWeight, Nat.mul_comm]

/-- Only the digits below the width matter. -/
theorem toBigEndian_add_mul (width n k : Nat) :
    toBigEndian width (n + k * byteWeight width) = toBigEndian width n := by
  induction width generalizing k with
  | zero => rfl
  | succ width ih =>
    have hweight : k * byteWeight (width + 1) = k * 256 * byteWeight width := by
      rw [byteWeight, Nat.mul_assoc, Nat.mul_comm 256]
    rw [hweight, toBigEndian, toBigEndian, ih (k * 256),
      Nat.add_mul_div_right _ _ (byteWeight_pos width)]
    congr 1
    apply UInt8.toNat.inj
    simp

theorem toBigEndian_ofBigEndian (bs : Bytes) : toBigEndian bs.length (ofBigEndian bs) = bs := by
  induction bs with
  | nil => rfl
  | cons b bs ih =>
    have hlt := ofBigEndian_lt bs
    rw [List.length_cons, toBigEndian, ofBigEndian, Nat.add_comm, toBigEndian_add_mul, ih,
      Nat.add_mul_div_right _ _ (byteWeight_pos bs.length), Nat.div_eq_of_lt hlt, Nat.zero_add,
      UInt8.ofNat_toNat]

end KafkaWire
