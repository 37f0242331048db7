import KafkaWire.Proofs.Wire.Reading
import KafkaWire.Wire.Varint

/-!
# Varints come back

The shortest spelling of a number is read back as that number, whatever follows it. The reader
and the speller recurse on the same thing, the number of digits that may still come, so the
statement is about both at any such number: with some number of further digits, everything below
`Varint.capacity` can be spelled.

Between the two stands what neither of them mentions, the value of digits in base 128. The reader
returns the value of the digits in front, if the last of them is the only one without a mark, and
the speller finds the fewest digits with a value.

## Main definitions

* `Varint.capacity` — how many numbers can be spelled
* `Varint.value`, `Varint.IsTerminated` — what bytes spell, and when they do
* `Varint.IsSpelling` — the bytes that stand for a 64-bit number

## Main results

* `Varint.read_eq_ok` — what is read is what is spelled in front
* `Varint.IsSpelling.eq_or_longer` — no other spelling is as short as the one that is written
* `Varint.read_bytes` — every 64-bit number comes back
* `unzigzag_zigzag`, `zigzag_unzigzag` — and, through it, every signed one
-/

namespace KafkaWire

namespace Varint

/-- How many numbers can be spelled with `more` further digits. The last digit has a single bit,
and each digit before it has seven. -/
def capacity : (more : Nat) → Nat
  | 0 => 2
  | more + 1 => capacity more * 128

/-- A single digit is always among them. -/
theorem lt_capacity_of_last {b : UInt8} (h : b < 128) (more : Nat) :
    b.toNat < capacity (more + 1) := by
  have hlt : b.toNat < 128 := UInt8.lt_iff_toNat_lt.mp h
  induction more with
  | zero => exact Nat.lt_trans hlt (by decide)
  | succ more ih =>
    rw [capacity]
    omega

/-- The value of digits in base 128, the least significant first. The high bit of a byte is a mark
and no part of the digit. -/
def value : Bytes → Nat
  | [] => 0
  | b :: bs => b.toNat % 128 + 128 * value bs

/-- The last byte has no mark, and all bytes before it have one. -/
def IsTerminated (digits : Bytes) : Prop :=
  ∃ front last, digits = front ++ [last] ∧ (∀ b ∈ front, 128 ≤ b) ∧ last < 128

theorem isTerminated_cons {b : UInt8} {bs : Bytes} :
    IsTerminated (b :: bs) ↔ b < 128 ∧ bs = [] ∨ 128 ≤ b ∧ IsTerminated bs := by
  constructor
  · rintro ⟨front, last, heq, hfront, hlast⟩
    cases front with
    | nil =>
      cases heq
      exact .inl ⟨hlast, rfl⟩
    | cons d front =>
      cases heq
      rw [List.forall_mem_cons] at hfront
      exact .inr ⟨hfront.1, front, last, rfl, hfront.2, hlast⟩
  · rintro (⟨hlast, rfl⟩ | ⟨hmarked, front, last, rfl, hfront, hlast⟩)
    · exact ⟨[], b, rfl, List.forall_mem_nil _, hlast⟩
    · exact ⟨b :: front, last, rfl, List.forall_mem_cons.mpr ⟨hmarked, hfront⟩, hlast⟩

theorem isTerminated_singleton {b : UInt8} (h : b < 128) : IsTerminated [b] :=
  isTerminated_cons.mpr (.inl ⟨h, rfl⟩)

theorem not_isTerminated_nil : ¬ IsTerminated [] := by
  rintro ⟨front, last, heq, -⟩
  exact absurd heq.symm (List.append_ne_nil_of_right_ne_nil front (List.cons_ne_nil last []))

theorem value_singleton {b : UInt8} (h : b < 128) : value [b] = b.toNat := by
  have hlt : b.toNat < 128 := UInt8.lt_iff_toNat_lt.mp h
  rw [value, value]
  omega

/-! ### One byte more -/

/-- An unmarked byte, unless it is the tenth, ends the number. -/
theorem readFrom_of_last {b : UInt8} (h : b < 128) (more : Nat) (bs : Bytes) :
    readFrom (more + 1) (b :: bs) = .ok (b.toNat, bs) := by
  rw [readFrom, if_pos h]

section Marked

variable {b : UInt8} (h : 128 ≤ b) {more : Nat} {bs : Bytes}

include h

/-- A marked byte leaves the rest of the number to the bytes after it. -/
theorem readFrom_marked_eq_ok {n : Nat} {rest : Bytes} :
    readFrom (more + 1) (b :: bs) = .ok (n, rest) ↔
      ∃ m, readFrom more bs = .ok (m, rest) ∧ b.toNat % 128 + 128 * m = n := by
  have hge : 128 ≤ b.toNat := UInt8.le_iff_toNat_le.mp h
  have hlt := b.toNat_lt
  have hdigit : b.toNat - 128 = b.toNat % 128 := by omega
  rw [readFrom, if_neg (UInt8.not_lt.mpr h), hdigit]
  cases readFrom more bs with
  | error e => simp
  | ok p =>
    obtain ⟨m, rest'⟩ := p
    simp only [Except.ok.injEq, Prod.mk.injEq]
    constructor
    · rintro ⟨rfl, rfl⟩
      exact ⟨m, ⟨rfl, rfl⟩, rfl⟩
    · rintro ⟨_, ⟨rfl, rfl⟩, rfl⟩
      exact ⟨rfl, rfl⟩

theorem readFrom_marked_eq_error {e : Error} :
    readFrom (more + 1) (b :: bs) = .error e ↔ readFrom more bs = .error e := by
  rw [readFrom, if_neg (UInt8.not_lt.mpr h)]
  cases readFrom more bs <;> simp

end Marked

/-- What was read was spelled in front, with no more digits than may come. -/
theorem exists_digits_of_readFrom {more n : Nat} {bs rest : Bytes}
    (h : readFrom more bs = .ok (n, rest)) : ∃ digits, bs = digits ++ rest ∧
      IsTerminated digits ∧ digits.length ≤ more + 1 ∧ value digits = n ∧ n < capacity more := by
  induction more generalizing n bs with
  | zero =>
    cases bs with
    | nil => cases h
    | cons b bs =>
      rw [readFrom] at h
      split at h <;> cases h
      rename_i hle
      have hbit : b.toNat < 2 := by
        rw [UInt8.lt_iff_toNat_lt] at hle
        exact Nat.lt_succ_of_le (Nat.not_lt.mp hle)
      have hlast : b < 128 := UInt8.lt_iff_toNat_lt.mpr (Nat.lt_trans hbit (by decide))
      exact ⟨[b], rfl, isTerminated_singleton hlast, Nat.le_refl 1, value_singleton hlast, hbit⟩
  | succ more ih =>
    cases bs with
    | nil => cases h
    | cons b bs =>
      by_cases hlast : b < 128
      · rw [readFrom_of_last hlast] at h
        cases h
        exact ⟨[b], rfl, isTerminated_singleton hlast, Nat.le_add_left 1 _,
          value_singleton hlast, lt_capacity_of_last hlast more⟩
      · have hmarked : 128 ≤ b := UInt8.not_lt.mp hlast
        obtain ⟨m, hm, rfl⟩ := (readFrom_marked_eq_ok hmarked).mp h
        obtain ⟨digits, rfl, hterm, hlength, rfl, hlt⟩ := ih hm
        refine ⟨b :: digits, rfl, isTerminated_cons.mpr (.inr ⟨hmarked, hterm⟩),
          Nat.succ_le_succ hlength, rfl, ?_⟩
        rw [capacity]
        omega

/-- What is spelled in front is read, if it is a number with so many digits. -/
theorem readFrom_digits {more : Nat} {digits : Bytes} (hterm : IsTerminated digits)
    (hlength : digits.length ≤ more + 1) (hlt : value digits < capacity more) (rest : Bytes) :
    readFrom more (digits ++ rest) = .ok (value digits, rest) := by
  induction more generalizing digits with
  | zero =>
    cases digits with
    | nil => exact absurd hterm not_isTerminated_nil
    | cons b digits =>
      rcases isTerminated_cons.mp hterm with ⟨hlast, rfl⟩ | ⟨-, hterm⟩
      · rw [value_singleton hlast] at hlt ⊢
        have hbit : ¬ 1 < b := by
          rw [UInt8.lt_iff_toNat_lt]
          exact Nat.not_lt.mpr (Nat.le_of_lt_succ hlt)
        rw [List.singleton_append, readFrom, if_neg hbit]
      · -- a mark on the tenth byte asks for an eleventh
        obtain rfl : digits = [] :=
          List.length_eq_zero_iff.mp (Nat.le_zero.mp (Nat.le_of_succ_le_succ hlength))
        exact absurd hterm not_isTerminated_nil
  | succ more ih =>
    cases digits with
    | nil => exact absurd hterm not_isTerminated_nil
    | cons b digits =>
      rcases isTerminated_cons.mp hterm with ⟨hlast, rfl⟩ | ⟨hmarked, hterm⟩
      · rw [value_singleton hlast]
        exact readFrom_of_last hlast more rest
      · rw [value, capacity] at hlt
        have htail : value digits < capacity more := by omega
        have hread := ih hterm (Nat.le_of_succ_le_succ hlength) htail
        exact (readFrom_marked_eq_ok hmarked).mpr ⟨value digits, hread, rfl⟩

/-- **What is read is what is spelled** in front, with as many digits as may come. -/
theorem readFrom_eq_ok {more n : Nat} {bs rest : Bytes} :
    readFrom more bs = .ok (n, rest) ↔ ∃ digits, bs = digits ++ rest ∧ IsTerminated digits ∧
      digits.length ≤ more + 1 ∧ value digits = n ∧ n < capacity more := by
  constructor
  · exact exists_digits_of_readFrom
  · rintro ⟨digits, rfl, hterm, hlength, rfl, hlt⟩
    exact readFrom_digits hterm hlength hlt rest

/-! ### The shortest spelling -/

theorem spell_ne_nil (more n : Nat) : spell more n ≠ [] := by
  cases more with
  | zero => simp [spell]
  | succ more =>
    rw [spell]
    split <;> simp

theorem bytes_ne_nil (n : UInt64) : bytes n ≠ [] := spell_ne_nil _ _

theorem ofNat_lt {n : Nat} (h : n < 128) : UInt8.ofNat n < 128 := by
  rw [UInt8.lt_iff_toNat_lt, UInt8.toNat_ofNat']
  exact Nat.lt_of_le_of_lt (Nat.mod_le n _) h

theorem value_ofNat {n : Nat} (h : n < 128) : value [UInt8.ofNat n] = n := by
  rw [value_singleton (ofNat_lt h), UInt8.toNat_ofNat']
  omega

/-- It is a spelling. -/
theorem spell_spells {more n : Nat} (h : n < capacity more) : IsTerminated (spell more n) ∧
    (spell more n).length ≤ more + 1 ∧ value (spell more n) = n := by
  induction more generalizing n with
  | zero =>
    have hlt : n < 128 := Nat.lt_trans h (by decide)
    exact ⟨isTerminated_singleton (ofNat_lt hlt), Nat.le_refl 1, value_ofNat hlt⟩
  | succ more ih =>
    rw [spell]
    split
    · rename_i hlt
      exact ⟨isTerminated_singleton (ofNat_lt hlt), Nat.le_add_left 1 _, value_ofNat hlt⟩
    · -- the digit is marked, and the number behind it is a hundred and twenty-eighth
      have htail : n / 128 < capacity more := by
        rw [capacity] at h
        omega
      obtain ⟨hterm, hlength, hvalue⟩ := ih htail
      have hbyte : (UInt8.ofNat (n % 128 + 128)).toNat = n % 128 + 128 := by
        rw [UInt8.toNat_ofNat']
        omega
      have hmarked : 128 ≤ UInt8.ofNat (n % 128 + 128) := by
        rw [UInt8.le_iff_toNat_le, hbyte]
        exact Nat.le_add_left 128 _
      refine ⟨isTerminated_cons.mpr (.inr ⟨hmarked, hterm⟩), Nat.succ_le_succ hlength, ?_⟩
      rw [value, hvalue, hbyte]
      omega

/-- **No other spelling is as short.** A spelling is longer exactly if it goes on where the number
has no digits left. -/
theorem spell_eq_or_shorter {more : Nat} {digits : Bytes} (h : IsTerminated digits)
    (hlength : digits.length ≤ more + 1) : spell more (value digits) = digits ∨
      (spell more (value digits)).length < digits.length := by
  induction more generalizing digits with
  | zero =>
    cases digits with
    | nil => exact absurd h not_isTerminated_nil
    | cons b digits =>
      obtain rfl : digits = [] :=
        List.length_eq_zero_iff.mp (Nat.le_zero.mp (Nat.le_of_succ_le_succ hlength))
      rcases isTerminated_cons.mp h with ⟨hlast, -⟩ | ⟨-, hterm⟩
      · rw [value_singleton hlast, spell, UInt8.ofNat_toNat]
        exact .inl rfl
      · exact absurd hterm not_isTerminated_nil
  | succ more ih =>
    cases digits with
    | nil => exact absurd h not_isTerminated_nil
    | cons b digits =>
      rcases isTerminated_cons.mp h with ⟨hlast, rfl⟩ | ⟨hmarked, hterm⟩
      · have hlt : b.toNat < 128 := UInt8.lt_iff_toNat_lt.mp hlast
        rw [value_singleton hlast, spell, if_pos hlt, UInt8.ofNat_toNat]
        exact .inl rfl
      · have hge : 128 ≤ b.toNat := UInt8.le_iff_toNat_le.mp hmarked
        have hbyte := b.toNat_lt
        rw [value, spell]
        split
        · -- no digit was left, and still the spelling went on
          have hne : digits ≠ [] := by
            rintro rfl
            exact not_isTerminated_nil hterm
          exact .inr (Nat.succ_lt_succ (List.length_pos_iff.mpr hne))
        · have hmod : (b.toNat % 128 + 128 * value digits) % 128 + 128 = b.toNat := by omega
          have hdiv : (b.toNat % 128 + 128 * value digits) / 128 = value digits := by omega
          rw [hmod, hdiv, UInt8.ofNat_toNat, List.length_cons, List.length_cons]
          rcases ih hterm (Nat.le_of_succ_le_succ hlength) with heq | hlt
          · rw [heq]
            exact .inl rfl
          · exact .inr (Nat.succ_lt_succ hlt)

/-! ### 64-bit numbers -/

/-- The bytes spell the number, with or without superfluous digits. -/
structure IsSpelling (digits : Bytes) (n : UInt64) : Prop where
  terminated : IsTerminated digits
  length_le : digits.length ≤ maxBytes
  value_eq : value digits = n.toNat

/-- **A number is read exactly if the input begins with a spelling of it.** -/
theorem read_eq_ok {n : UInt64} {bs rest : Bytes} :
    read bs = .ok (n, rest) ↔ ∃ digits, bs = digits ++ rest ∧ IsSpelling digits n := by
  have hstep : read bs = .ok (n, rest) ↔ readFrom (maxBytes - 1) bs = .ok (n.toNat, rest) := by
    rw [read]
    constructor
    · intro h
      cases hread : readFrom (maxBytes - 1) bs with
      | error e => simp [hread] at h
      | ok p =>
        obtain ⟨k, rest'⟩ := p
        simp only [hread] at h
        cases h
        obtain ⟨_, _, _, _, _, hlt⟩ := readFrom_eq_ok.mp hread
        have hval : (UInt64.ofNat k).toNat = k := by
          rw [UInt64.toNat_ofNat']
          exact Nat.mod_eq_of_lt hlt
        rw [hval]
    · intro h
      rw [h]
      simp
  rw [hstep, readFrom_eq_ok]
  constructor
  · rintro ⟨digits, rfl, hterm, hlength, hvalue, -⟩
    exact ⟨digits, rfl, hterm, hlength, hvalue⟩
  · rintro ⟨digits, rfl, hterm, hlength, hvalue⟩
    exact ⟨digits, rfl, hterm, hlength, hvalue, n.toNat_lt⟩

/-- What is written is a spelling. -/
theorem isSpelling_bytes (n : UInt64) : IsSpelling (bytes n) n := by
  obtain ⟨hterm, hlength, hvalue⟩ := @spell_spells (maxBytes - 1) n.toNat n.toNat_lt
  exact ⟨hterm, hlength, hvalue⟩

/-- **A number comes back from its shortest spelling.** -/
theorem read_bytes (n : UInt64) (rest : Bytes) : read (bytes n ++ rest) = .ok (n, rest) :=
  read_eq_ok.mpr ⟨bytes n, rfl, isSpelling_bytes n⟩

/-- **Every other spelling is longer** than the one that is written. -/
theorem IsSpelling.eq_or_longer {digits : Bytes} {n : UInt64} (h : IsSpelling digits n) :
    bytes n = digits ∨ (bytes n).length < digits.length := by
  have hspell := spell_eq_or_shorter h.terminated h.length_le
  rw [h.value_eq] at hspell
  exact hspell

end Varint

/-! ### Signs -/

/-- **The zigzag image determines the number.** -/
theorem unzigzag_zigzag (n : Int64) : unzigzag (zigzag n) = n := by
  have hlo := n.le_toInt
  have hhi := n.toInt_lt
  apply Int64.toInt_inj.mp
  by_cases hsign : 0 ≤ n.toInt
  · have himage : (zigzag n).toNat = 2 * n.toInt.toNat := by
      rw [zigzag, if_pos hsign, UInt64.toNat_ofNat']
      omega
    rw [unzigzag, himage, if_pos (Nat.mul_mod_right 2 _), Nat.mul_div_cancel_left _ (by decide),
      Int.toNat_of_nonneg hsign, Int64.ofInt_toInt]
  · have himage : (zigzag n).toNat = 2 * (-n.toInt - 1).toNat + 1 := by
      rw [zigzag, if_neg hsign, UInt64.toNat_ofNat']
      omega
    rw [unzigzag, himage, if_neg (by omega), Int64.toInt_ofInt_of_le (by omega) (by omega)]
    omega

/-- **Every number is the zigzag image** of the signed number it stands for. -/
theorem zigzag_unzigzag (n : UInt64) : zigzag (unzigzag n) = n := by
  have hlt := n.toNat_lt
  apply UInt64.toNat_inj.mp
  rw [unzigzag]
  split
  · rename_i heven
    have hval : (Int64.ofInt (n.toNat / 2 : Nat)).toInt = (n.toNat / 2 : Nat) :=
      Int64.toInt_ofInt_of_le (by omega) (by omega)
    rw [zigzag, hval, if_pos (by omega), UInt64.toNat_ofNat', Int.toNat_natCast]
    omega
  · rename_i hodd
    have hval : (Int64.ofInt (-(n.toNat / 2 : Nat) - 1)).toInt = -(n.toNat / 2 : Nat) - 1 :=
      Int64.toInt_ofInt_of_le (by omega) (by omega)
    rw [zigzag, hval, if_neg (by omega), UInt64.toNat_ofNat']
    omega

namespace Reader

theorem uvarint_append (n : UInt64) (rest : Bytes) :
    uvarint (Varint.bytes n ++ rest) = .ok (n, rest) :=
  Varint.read_bytes n rest

theorem varint_append (n : Int64) (rest : Bytes) :
    varint (Varint.bytes (zigzag n) ++ rest) = .ok (n, rest) := by
  rw [varint, bind_of_ok (uvarint_append _ rest), pure_run, unzigzag_zigzag]

/-- Tags and sizes fit in 32 bits, and then they come back too. -/
theorem uvarint32_append {n : UInt64} (h : n.toNat < UInt32.size) (rest : Bytes) :
    uvarint32 (Varint.bytes n ++ rest) = .ok (n.toUInt32, rest) := by
  rw [uvarint32, bind_of_ok (uvarint_append n rest), if_pos h, pure_run]

/-- A number that was read has a spelling at the front. -/
theorem exists_spells_of_uvarint {bs rest : Bytes} {n : UInt64}
    (h : uvarint bs = .ok (n, rest)) : ∃ front, bs = front ++ rest ∧ uvarint.Spells front n := by
  obtain ⟨digits, rfl, hdigits⟩ := Varint.read_eq_ok.mp h
  exact ⟨digits, rfl, fun tail => Varint.read_eq_ok.mpr ⟨digits, rfl, hdigits⟩⟩

/-- A tag or a size is a number that fits in 32 bits. -/
theorem uvarint_of_uvarint32 {bs rest : Bytes} {n : UInt32} (h : uvarint32 bs = .ok (n, rest)) :
    uvarint bs = .ok (n.toUInt64, rest) := by
  obtain ⟨k, mid, hk, h⟩ := bind_eq_ok.mp h
  split at h
  · rename_i hlt
    cases h
    have hlt' : k.toNat < 0x100000000 := hlt
    have hval : k.toUInt32.toUInt64 = k := by
      apply UInt64.toNat_inj.mp
      rw [UInt32.toNat_toUInt64, UInt64.toNat_toUInt32]
      omega
    rw [hval]
    exact hk
  · cases h

end Reader

end KafkaWire
