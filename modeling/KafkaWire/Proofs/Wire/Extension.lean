import KafkaWire.Proofs.Wire.Building

/-!
# More input

Readers take their values off the front, but some of them look further: the count of an array is
compared with all the bytes that are left, and so are the number of tagged fields and the length
of a text. What follows a value might therefore decide whether it is read. It does not. These
looks ahead can only find that the input ends too early, so bytes added behind the input leave
every outcome as it was, **except that of input that was too short**.

This is one property of readers, closed under every way of building them, and it makes complete
buffers stand out: none of them is the front of another.

## Main definitions

* `Reader.Steady` — no outcome changes when bytes are added, but for input that was too short
* `SelfDelimiting` — what follows for a decoder of complete buffers

## Main results

* `Reader.Built.steady` — all readers that are built from bytes and refusals are steady
* `Reader.Steady.selfDelimiting` — truncated and extended buffers are told apart
-/

namespace KafkaWire

namespace Reader

variable {α β : Type}

/-- Bytes added behind the input change no outcome, except that of input that ends too early. -/
structure Steady (r : Reader α) : Prop where
  /-- A value that was read is read again, and the new bytes are left over. -/
  ok : ∀ {bs rest a}, r bs = .ok (a, rest) → ∀ more, r (bs ++ more) = .ok (a, rest ++ more)
  /-- What was refused for another reason than its end is refused for the same reason. -/
  error : ∀ {bs e}, r bs = .error e → e ≠ .insufficientData →
    ∀ more, r (bs ++ more) = .error e

/-! ### The steps -/

theorem steady_pure (a : α) : (pure a : Reader α).Steady where
  ok h more := by
    cases h
    rfl
  error h := nomatch h

theorem steady_throw (e : Error) : (throw e : Reader α).Steady where
  ok h := nomatch h
  error h _ more := by
    cases h
    rfl

theorem Steady.bind {r : Reader α} {f : α → Reader β} (hr : r.Steady) (hf : ∀ a, (f a).Steady) :
    (r >>= f).Steady where
  ok h more := by
    obtain ⟨a, mid, ha, hb⟩ := bind_eq_ok.mp h
    rw [bind_of_ok (hr.ok ha more)]
    exact (hf a).ok hb more
  error {bs e} h hne more := by
    cases hbs : r bs with
    | error e' =>
      obtain rfl : e' = e := Except.error.inj ((bind_of_error hbs f).symm.trans h)
      exact bind_of_error (hr.error hbs hne more) f
    | ok p =>
      obtain ⟨a, mid⟩ := p
      rw [bind_of_ok hbs] at h
      rw [bind_of_ok (hr.ok hbs more)]
      exact (hf a).error h hne more

/-- Looking for bytes can only find that there are too few of them. -/
theorem steady_require (n : Nat) : (require n).Steady where
  ok {bs rest a} h more := by
    simp only [require, hasAtLeast_iff] at h
    split at h
    · rename_i hle
      cases h
      refine require_of_le ?_
      rw [List.length_append]
      omega
    · cases h
  error {bs e} h hne := by
    simp only [require] at h
    split at h <;> cases h
    exact absurd rfl hne

theorem steady_takeExactly (n : Nat) : (takeExactly n).Steady where
  ok {bs rest a} h more := by
    obtain ⟨taken, hlength⟩ := a
    obtain rfl : bs = taken ++ rest := takeExactly_eq_ok h
    rw [List.append_assoc]
    exact takeExactly_append hlength (rest ++ more)
  error {bs e} h hne := by
    simp only [takeExactly] at h
    split at h <;> cases h
    exact absurd rfl hne

/-- **Built readers are steady.** -/
theorem Built.steady {r : Reader α} (h : r.Built) : r.Steady := by
  induction h with
  | value a => exact steady_pure a
  | refusal _ => exact steady_throw _
  | demand n => exact steady_require n
  | bytes n => exact steady_takeExactly n
  | bind _ _ first next => exact first.bind next

end Reader

/-! ### Complete buffers -/

/-- A decoder of complete buffers, of which none is the front of another: a truncated one is
short of data, and an extended one has that many bytes left over. -/
structure SelfDelimiting {α : Type} (decode : Bytes → Except Error α) (leftover : Nat → Error) :
    Prop where
  truncated : ∀ {front back a}, decode (front ++ back) = .ok a → back ≠ [] →
    decode front = .error .insufficientData
  extended : ∀ {bs a}, decode bs = .ok a → ∀ {more}, more ≠ [] →
    decode (bs ++ more) = .error (leftover more.length)

namespace Reader

variable {α : Type}

/-- **Truncation and extension.** A steady reader accepts no two complete buffers of which one is
the front of the other. -/
theorem Steady.selfDelimiting {r : Reader α} (hr : r.Steady) (leftover : Nat → Error) :
    SelfDelimiting (r.whole leftover) leftover where
  truncated {front back a} h hback := by
    have hread := whole_eq_ok.mp h
    cases hfront : r front with
    | error e =>
      by_cases he : e = .insufficientData
      · rw [whole, hfront, he]
      · -- any other refusal would have stayed
        have hstays := hr.error hfront he back
        rw [hread] at hstays
        cases hstays
    | ok p =>
      -- a value read from the front alone leaves the back
      have hleaves := hr.ok hfront back
      rw [hread] at hleaves
      have hnil : [] = p.2 ++ back := congrArg Prod.snd (Except.ok.inj hleaves)
      exact absurd (List.append_eq_nil_iff.mp hnil.symm).2 hback
  extended {bs a} h more hmore := by
    have hread := hr.ok (whole_eq_ok.mp h) more
    cases more with
    | nil => exact absurd rfl hmore
    | cons b more => rw [whole, hread, List.nil_append]

end Reader

end KafkaWire
