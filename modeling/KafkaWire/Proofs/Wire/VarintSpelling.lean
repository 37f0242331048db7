import KafkaWire.Proofs.Wire.Primitive

/-!
# What varints are

Three things have to agree on varints: the writer, which splits off digits until none is left, the
counter, which only finds out how many there will be, and the reader, which takes up to ten of them
and must notice in the last one that a number does not fit in 64 bits. What they have to agree on
is a relation between bytes and numbers (`Varint.IsSpelling`): all bytes but the last are marked,
there are at most ten, and their digits have the value of the number.

That relation decides the reader completely. It returns a number exactly if the input begins with a
spelling of it, it runs out of data exactly if the input ends before an unmarked byte, and it finds
the number too large exactly in the tenth byte.

## Main results

* `Varint.readFrom_eq_insufficient`, `Varint.readFrom_eq_invalid` — the two failures
* `zigzag_eq_xor`, `unzigzag_eq_xor` — signs, in shifts and exclusive disjunctions
* `Varint.varint_outcome` — all of this
-/

namespace KafkaWire

namespace Varint

/-! ### How reading fails -/

/-- **The data are short** exactly if all of them are marked and more digits may come. -/
theorem readFrom_eq_insufficient {more : Nat} {bs : Bytes} :
    readFrom more bs = .error .insufficientData ↔ bs.length ≤ more ∧ ∀ b ∈ bs, 128 ≤ b := by
  induction more generalizing bs with
  | zero =>
    cases bs with
    | nil => simp [readFrom]
    | cons b bs =>
      rw [readFrom]
      split <;> simp
  | succ more ih =>
    cases bs with
    | nil => simp [readFrom]
    | cons b bs =>
      rw [List.forall_mem_cons, List.length_cons, Nat.succ_le_succ_iff]
      by_cases hmarked : 128 ≤ b
      · rw [readFrom_marked_eq_error hmarked, ih]
        simp [hmarked]
      · rw [readFrom_of_last (UInt8.not_le.mp hmarked)]
        simp [hmarked]

/-- **The number is too large** exactly if the last digit that may come is not zero or one. -/
theorem readFrom_eq_invalid {more : Nat} {bs : Bytes} :
    readFrom more bs = .error .invalidVarint ↔ ∃ front b rest, bs = front ++ b :: rest ∧
      front.length = more ∧ (∀ d ∈ front, 128 ≤ d) ∧ 1 < b := by
  induction more generalizing bs with
  | zero =>
    constructor
    · intro h
      cases bs with
      | nil => cases h
      | cons b bs =>
        rw [readFrom] at h
        split at h
        · rename_i hlarge
          exact ⟨[], b, bs, rfl, rfl, List.forall_mem_nil _, hlarge⟩
        · cases h
    · rintro ⟨front, b, rest, rfl, hlength, -, hlarge⟩
      obtain rfl := List.length_eq_zero_iff.mp hlength
      rw [List.nil_append, readFrom, if_pos hlarge]
  | succ more ih =>
    constructor
    · intro h
      cases bs with
      | nil => cases h
      | cons d bs =>
        by_cases hmarked : 128 ≤ d
        · rw [readFrom_marked_eq_error hmarked, ih] at h
          obtain ⟨front, b, rest, rfl, hlength, hfront, hlarge⟩ := h
          exact ⟨d :: front, b, rest, rfl, congrArg Nat.succ hlength,
            List.forall_mem_cons.mpr ⟨hmarked, hfront⟩, hlarge⟩
        · rw [readFrom_of_last (UInt8.not_le.mp hmarked)] at h
          cases h
    · rintro ⟨front, b, rest, rfl, hlength, hfront, hlarge⟩
      cases front with
      | nil => cases hlength
      | cons d front =>
        rw [List.forall_mem_cons] at hfront
        rw [List.cons_append, readFrom_marked_eq_error hfront.1, ih]
        exact ⟨front, b, rest, rfl, Nat.succ.inj hlength, hfront.2, hlarge⟩

/-- Reading fails in no other way. -/
theorem readFrom_error {more : Nat} {bs : Bytes} {e : Error} (h : readFrom more bs = .error e) :
    e = .insufficientData ∨ e = .invalidVarint := by
  induction more generalizing bs with
  | zero =>
    cases bs with
    | nil =>
      cases h
      exact .inl rfl
    | cons b bs =>
      rw [readFrom] at h
      split at h <;> cases h
      exact .inr rfl
  | succ more ih =>
    cases bs with
    | nil =>
      cases h
      exact .inl rfl
    | cons b bs =>
      by_cases hmarked : 128 ≤ b
      · exact ih ((readFrom_marked_eq_error hmarked).mp h)
      · rw [readFrom_of_last (UInt8.not_le.mp hmarked)] at h
        cases h

theorem read_eq_error {e : Error} {bs : Bytes} :
    read bs = .error e ↔ readFrom (maxBytes - 1) bs = .error e := by
  rw [read]
  cases readFrom (maxBytes - 1) bs <;> simp

end Varint

/-! ### Signs, bit by bit -/

/-- Shifting all other bits out leaves the sign. -/
theorem shiftRight_sign (n : Int64) : n >>> 63 = if 0 ≤ n.toInt then 0 else -1 := by
  have hlo := n.le_toInt
  have hhi := n.toInt_lt
  have hshift : (n >>> 63).toInt = n.toInt / 0x8000000000000000 := by
    rw [← Int64.toInt_toBitVec, Int64.toBitVec_shiftRight]
    show (n.toBitVec.sshiftRight 63).toInt = _
    rw [BitVec.toInt_sshiftRight, Int.shiftRight_eq_div_pow]
    rfl
  apply Int64.toInt_inj.mp
  rw [hshift]
  split
  · show _ = (0 : Int)
    omega
  · show _ = (-1 : Int)
    omega

theorem zigzag_eq_xor (n : Int64) : zigzag n = ((n <<< 1) ^^^ (n >>> 63)).toUInt64 := by
  have hlo := n.le_toInt
  have hhi := n.toInt_lt
  have hdouble : (n <<< 1).toUInt64.toNat = n.toUInt64.toNat * 2 % 0x10000000000000000 := by
    show (n.toBitVec <<< 1).toNat = _
    rw [BitVec.toNat_shiftLeft, Nat.shiftLeft_eq]
    rfl
  have hbits : n.toInt = if 2 * n.toUInt64.toNat < 0x10000000000000000 then (n.toUInt64.toNat : Int)
      else n.toUInt64.toNat - 0x10000000000000000 := by
    rw [← Int64.toInt_toBitVec]
    exact BitVec.toInt_eq_toNat_cond n.toBitVec
  have hlt := n.toUInt64.toNat_lt
  apply UInt64.toNat_inj.mp
  rw [zigzag, shiftRight_sign]
  by_cases hsign : 0 ≤ n.toInt
  · rw [if_pos hsign, if_pos hsign, Int64.xor_zero, hdouble, UInt64.toNat_ofNat']
    split at hbits <;> omega
  · have hsize : UInt64.size = 0x10000000000000000 := rfl
    rw [if_neg hsign, if_neg hsign, Int64.xor_neg_one, Int64.toUInt64_not, UInt64.toNat_not,
      hdouble, UInt64.toNat_ofNat', hsize]
    split at hbits <;> omega

theorem unzigzag_eq_xor (n : UInt64) :
    unzigzag n = (n >>> 1).toInt64 ^^^ -(n &&& 1).toInt64 := by
  have hlt := n.toNat_lt
  have hhalf : (n >>> 1).toNat = n.toNat / 2 := by
    rw [UInt64.toNat_shiftRight]
    exact Nat.shiftRight_eq_div_pow n.toNat 1
  have hval : (n >>> 1).toInt64 = Int64.ofInt (n.toNat / 2 : Nat) := by
    rw [Int64.ofInt_eq_ofNat, ← hhalf, ← UInt64.toInt64_ofNat', UInt64.ofNat_toNat]
  have hlast : (n &&& 1).toNat = n.toNat % 2 := by
    rw [UInt64.toNat_and]
    exact Nat.and_one_is_mod n.toNat
  rw [unzigzag]
  split
  · rename_i heven
    have hzero : n &&& 1 = 0 := UInt64.toNat_inj.mp (hlast.trans heven)
    rw [hzero, hval]
    exact Int64.xor_zero.symm
  · rename_i hodd
    have hone : n &&& 1 = 1 := UInt64.toNat_inj.mp (hlast.trans (by show _ = 1; omega))
    have hsign : -(1 : UInt64).toInt64 = -1 := rfl
    rw [hone, hsign, Int64.xor_neg_one, Int64.not_eq_neg_add, hval, Int64.ofInt_sub,
      Int64.ofInt_neg]
    rfl

/-! ### Varints -/

namespace Varint

/-- **Varints, exactly.**

A number is read exactly if the input begins with at most ten bytes, of which all but the last are
marked, and their digits have that value. The number is too large exactly if nine marked bytes are
followed by one that is not zero or one, and the data are short exactly if there are fewer than ten
bytes, all of them marked; nothing else can go wrong.

What is written for a number has the size that was counted for it, is read as the number again, and
is shorter than every other spelling. A signed number is written as its zigzag image, which is a
one-to-one correspondence, and comes back too. -/
theorem varint_outcome :
    (∀ bs n rest, read bs = .ok (n, rest) ↔ ∃ digits, bs = digits ++ rest ∧ IsSpelling digits n) ∧
    (∀ bs, read bs = .error .invalidVarint ↔ ∃ front b rest, bs = front ++ b :: rest ∧
      front.length = 9 ∧ (∀ d ∈ front, 128 ≤ d) ∧ 1 < b) ∧
    (∀ bs, read bs = .error .insufficientData ↔ bs.length < 10 ∧ ∀ b ∈ bs, 128 ≤ b) ∧
    (∀ bs e, read bs = .error e → e = .insufficientData ∨ e = .invalidVarint) ∧
    (∀ n, (bytes n).length = size n ∧ (∀ rest, read (bytes n ++ rest) = .ok (n, rest)) ∧
      ∀ digits, IsSpelling digits n → digits ≠ bytes n → (bytes n).length < digits.length) ∧
    (∀ n, ∃ out, (Primitive.write .varint n).encode = .ok out ∧
      ∀ rest, Primitive.read .varint (out ++ rest) = .ok (n, rest)) ∧
    (∀ n, unzigzag (zigzag n) = n ∧ zigzag n = ((n <<< 1) ^^^ (n >>> 63)).toUInt64) ∧
    ∀ n, zigzag (unzigzag n) = n ∧ unzigzag n = (n >>> 1).toInt64 ^^^ -(n &&& 1).toInt64 := by
  refine ⟨fun bs n rest => read_eq_ok, fun bs => read_eq_error.trans readFrom_eq_invalid, ?_, ?_,
    ?_, ?_, fun n => ⟨unzigzag_zigzag n, zigzag_eq_xor n⟩,
    fun n => ⟨zigzag_unzigzag n, unzigzag_eq_xor n⟩⟩
  · intro bs
    rw [read_eq_error, readFrom_eq_insufficient, maxBytes, Nat.lt_succ_iff]
  · intro bs e h
    exact readFrom_error (read_eq_error.mp h)
  · intro n
    exact ⟨length_bytes n, read_bytes n, fun digits h hother =>
      h.eq_or_longer.resolve_left hother.symm⟩
  · intro n
    exact ⟨bytes (zigzag n), Output.encode_eq_ok.mpr (Output.writes_chunk.mpr rfl),
      Reader.varint_append n⟩

/-- The number one with two superfluous digits, nine marked bytes that go on with more than a bit,
and the least signed number. -/
theorem varint_outcome_padded :
    let padded : Bytes := [0x81, 0x80, 0x00]
    IsSpelling padded 1 ∧ read (padded ++ [7]) = .ok (1, [7]) ∧
      (bytes 1).length < padded.length ∧
      read (List.replicate 9 0xff ++ [2]) = .error .invalidVarint ∧
      zigzag Int64.minValue = 0xffffffffffffffff ∧
      unzigzag 0xffffffffffffffff = Int64.minValue := by
  intro padded
  have spelling : IsSpelling padded 1 :=
    ⟨⟨[0x81, 0x80], 0x00, rfl, by simp, by decide⟩, by decide, by decide⟩
  have least : zigzag Int64.minValue = 0xffffffffffffffff := by decide
  obtain ⟨ok, invalid, -, -, written, -, signed, -⟩ := varint_outcome
  refine ⟨spelling, (ok _ _ _).mpr ⟨padded, rfl, spelling⟩, ?_, ?_, least, ?_⟩
  · exact (written 1).2.2 padded spelling (by decide)
  · have marked : ∀ d ∈ List.replicate 9 (0xff : UInt8), 128 ≤ d :=
      List.forall_mem_replicate.mpr (.inr (by decide))
    exact (invalid _).mpr ⟨List.replicate 9 0xff, 2, [], rfl, rfl, marked, by decide⟩
  · rw [← least]
    exact (signed Int64.minValue).1

end Varint

end KafkaWire
