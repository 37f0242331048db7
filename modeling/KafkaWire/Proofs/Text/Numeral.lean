import KafkaWire.Proofs.Outcome
import Mathlib.Data.List.Induction

/-!
# Numerals of a signed type

Which integer the reader of numerals takes a text for, and what it says of every other text.

Leading zeros cost nothing, so the length of a numeral does not tell whether it fits its type. The
reader counts digit by digit and checks the bound at each, and it is described by the first
character at which it cannot go on. Everything behind that character is ignored, so the induction
that finds it goes from the back.

Counting over a front of digits is the one lemma about the loop. Counting downwards needs no second
one, because the two directions mirror each other, faults included. What digits denote is the
library's `Nat.ofDigitChars`, and so writing a number in base ten is undone by the library's lemmas.

## Main definitions

* `Numeral.Denotes` — the integer that a text denotes, in no particular type
* `Numeral.Stops`, `Numeral.Faulty` — where counting stops, and why a text is no numeral of a type

## Main results

* `Numeral.readUp_append` — counting over a front of digits
* `Numeral.readDown_eq` — counting downwards is counting upwards, mirrored
* `Numeral.read_eq_ok`, `Numeral.read_eq_error` — what is read, and what is not
-/

namespace KafkaWire

/-- The fault of the negated numeral. -/
def NumeralFault.opposite : NumeralFault → NumeralFault
  | .tooLarge => .tooSmall
  | .tooSmall => .tooLarge
  | fault => fault

namespace Numeral

/-- Nothing but ASCII digits. -/
def Digits (ds : List Char) : Prop := ∀ d ∈ ds, d.isDigit = true

instance (ds : List Char) : Decidable (Digits ds) :=
  decidable_of_iff (ds.all (·.isDigit) = true) List.all_eq_true

/-- The number that digits denote in base ten. -/
def value (ds : List Char) : Nat := Nat.ofDigitChars 10 ds 0

/-- The integer that a text denotes: digits in base ten, behind an optional sign. -/
inductive Denotes : List Char → Int → Prop
  | unsigned {ds : List Char} : ds ≠ [] → Digits ds → Denotes ds (value ds)
  | plus {ds : List Char} : ds ≠ [] → Digits ds → Denotes ('+' :: ds) (value ds)
  | minus {ds : List Char} : ds ≠ [] → Digits ds → Denotes ('-' :: ds) (-value ds)

/-- Counting digits up to a limit stops at a character and for a reason. The digits before it are
within the limit. -/
inductive Stops (limit : Int) : List Char → NumeralFault → Prop
  | noDigit {front : List Char} {c : Char} {back : List Char} :
    Digits front → value front ≤ limit → c.isDigit = false →
      Stops limit (front ++ c :: back) .invalidDigit
  | overflow {front : List Char} {c : Char} {back : List Char} :
    Digits front → value front ≤ limit → c.isDigit = true → limit < value (front ++ [c]) →
      Stops limit (front ++ c :: back) .tooLarge

/-- Why a text denotes no integer between `min` and `max`. Only one sign is read, and the digits
behind a minus sign count against the other bound. -/
inductive Faulty (min max : Int) : List Char → NumeralFault → Prop
  | empty : Faulty min max [] .empty
  | barePlus : Faulty min max ['+'] .invalidDigit
  | bareMinus : Faulty min max ['-'] .invalidDigit
  | unsigned {cs : List Char} {fault : NumeralFault} : cs.head? ≠ some '+' → cs.head? ≠ some '-' →
    Stops max cs fault → Faulty min max cs fault
  | plus {cs : List Char} {fault : NumeralFault} :
    Stops max cs fault → Faulty min max ('+' :: cs) fault
  | minus {cs : List Char} {fault : NumeralFault} :
    Stops (-min) cs fault → Faulty min max ('-' :: cs) fault.opposite

/-! ### Digits -/

section Digits

variable {c : Char} {cs ds front back : List Char} {limit : Int} {start : Nat}

theorem digit?_of_isDigit (h : c.isDigit = true) : digit? c = some (c.toNat - '0'.toNat) := by
  rw [Char.isDigit, Bool.and_eq_true, decide_eq_true_eq, decide_eq_true_eq] at h
  exact if_pos h

theorem digit?_of_not_isDigit (h : c.isDigit = false) : digit? c = none := by
  rw [Char.isDigit, Bool.and_eq_false_iff, decide_eq_false_iff_not, decide_eq_false_iff_not] at h
  exact if_neg (not_and_or.mpr h)

/-- More digits never make a number smaller. -/
theorem le_ofDigitChars (ds : List Char) (start : Nat) : start ≤ Nat.ofDigitChars 10 ds start := by
  rw [Nat.ofDigitChars_eq_ofDigitChars_zero]
  calc start ≤ 10 ^ ds.length * start := Nat.le_mul_of_pos_left _ (Nat.pow_pos (by decide))
    _ ≤ _ := Nat.le_add_right _ _

/-! ### Counting -/

/-- **One digit more**, unless it exceeds the limit. -/
theorem readUp_cons_digit (hc : c.isDigit = true) : readUp limit start (c :: cs) =
    if limit < (Nat.ofDigitChars 10 [c] start : Nat) then .error .tooLarge
    else readUp limit (Nat.ofDigitChars 10 [c] start : Nat) cs := by
  have hnext : (start : Int) * 10 + (c.toNat - '0'.toNat : Nat) =
      (Nat.ofDigitChars 10 [c] start : Nat) := by
    rw [Nat.ofDigitChars_cons, Nat.ofDigitChars_nil]
    omega
  rw [readUp, digit?_of_isDigit hc]
  dsimp only
  rw [hnext]

theorem readUp_cons_other (hc : c.isDigit = false) :
    readUp limit start (c :: cs) = .error .invalidDigit := by
  rw [readUp, digit?_of_not_isDigit hc]

/-- **Counting over a front of digits**, as long as it stays within the limit. -/
theorem readUp_append (hfront : Digits front)
    (hlimit : (Nat.ofDigitChars 10 front start : Int) ≤ limit) (back : List Char) :
    readUp limit start (front ++ back) =
      readUp limit (Nat.ofDigitChars 10 front start : Nat) back := by
  induction front generalizing start with
  | nil => rfl
  | cons c front ih =>
    obtain ⟨hc, hfront⟩ := List.forall_mem_cons.mp hfront
    have hstep : Nat.ofDigitChars 10 (c :: front) start =
        Nat.ofDigitChars 10 front (Nat.ofDigitChars 10 [c] start) := by
      rw [← List.singleton_append, Nat.ofDigitChars_append]
    rw [hstep] at hlimit ⊢
    have hgrows := le_ofDigitChars front (Nat.ofDigitChars 10 [c] start)
    rw [List.cons_append, readUp_cons_digit hc, if_neg (by omega), ih hfront hlimit]

/-- **Digits within the limit are read.** -/
theorem readUp_of_digits (h : Digits ds) (hlimit : (value ds : Int) ≤ limit) :
    readUp limit 0 ds = .ok (value ds) := by
  have hrun := readUp_append h hlimit []
  rwa [List.append_nil] at hrun

/-- **Where counting stops, it fails.** -/
theorem Stops.readUp_eq {fault : NumeralFault} (h : Stops limit cs fault) :
    readUp limit 0 cs = .error fault := by
  cases h with
  | noDigit hfront hlimit hc =>
    exact (readUp_append hfront hlimit _).trans (readUp_cons_other hc)
  | overflow hfront hlimit hc hover =>
    rw [value, Nat.ofDigitChars_append] at hover
    exact (readUp_append hfront hlimit _).trans ((readUp_cons_digit hc).trans (if_pos hover))

theorem Stops.append {fault : NumeralFault} (h : Stops limit cs fault) (more : List Char) :
    Stops limit (cs ++ more) fault := by
  cases h with
  | noDigit hfront hlimit hc =>
    rw [List.append_assoc, List.cons_append]
    exact .noDigit hfront hlimit hc
  | overflow hfront hlimit hc hover =>
    rw [List.append_assoc, List.cons_append]
    exact .overflow hfront hlimit hc hover

/-- Counting ends well or stops somewhere. The induction is on the last character, since a text
that has stopped once stays so. -/
theorem digits_or_stops (hlimit : 0 ≤ limit) (cs : List Char) :
    (Digits cs ∧ (value cs : Int) ≤ limit) ∨ ∃ fault, Stops limit cs fault := by
  induction cs using List.reverseRecOn with
  | nil => exact .inl ⟨List.forall_mem_nil _, hlimit⟩
  | append_singleton front c ih =>
    rcases ih with ⟨hfront, hvalue⟩ | ⟨fault, h⟩
    · cases hc : c.isDigit with
      | false => exact .inr ⟨_, .noDigit hfront hvalue hc⟩
      | true =>
        by_cases hover : limit < value (front ++ [c])
        · exact .inr ⟨_, .overflow hfront hvalue hc hover⟩
        · have hdigits : Digits (front ++ [c]) :=
            List.forall_mem_append.mpr ⟨hfront, List.forall_mem_singleton.mpr hc⟩
          exact .inl ⟨hdigits, Int.not_lt.mp hover⟩
    · exact .inr ⟨fault, h.append [c]⟩

theorem Stops.ne_nil {fault : NumeralFault} (h : Stops limit cs fault) : cs ≠ [] := by
  cases h <;> exact List.append_ne_nil_of_right_ne_nil _ (List.cons_ne_nil _ _)

end Digits

/-- **A number in base ten denotes itself.** -/
theorem denotes_toDigits (n : Nat) : Denotes (Nat.toDigits 10 n) n := by
  have hdigits : Digits (Nat.toDigits 10 n) := fun _ =>
    Nat.isDigit_of_mem_toDigits (by decide) (by decide)
  have hvalue : value (Nat.toDigits 10 n) = n := Nat.ofDigitChars_ten_toDigits
  have h := Denotes.unsigned Nat.toDigits_ne_nil hdigits
  rwa [hvalue] at h

/-! ### Signs -/

section Sign

variable {min max n : Int} {cs ds : List Char} {fault : NumeralFault}

/-- The outcome for the negated numeral. -/
def mirrored : Except NumeralFault Int → Except NumeralFault Int
  | .ok n => .ok (-n)
  | .error fault => .error fault.opposite

/-- **Counting downwards is counting upwards, mirrored.** -/
theorem readDown_eq (min start : Int) (cs : List Char) :
    readDown min start cs = mirrored (readUp (-min) (-start) cs) := by
  induction cs generalizing start with
  | nil => rw [readDown, readUp, mirrored, Int.neg_neg]
  | cons c cs ih =>
    rw [readDown, readUp]
    cases digit? c with
    | none => rfl
    | some d =>
      have hnext : -start * 10 + (d : Int) = -(start * 10 - d) := by omega
      dsimp only
      rw [hnext, ih]
      by_cases hbelow : start * 10 - (d : Int) < min
      · rw [if_pos hbelow, if_pos (by omega)]
        rfl
      · rw [if_neg hbelow, if_neg (by omega)]

theorem read_plus (h : cs ≠ []) : read min max ('+' :: cs) = readUp max 0 cs := by
  cases cs with
  | nil => exact absurd rfl h
  | cons c cs => rfl

theorem read_minus (hmin : min < 0) (h : cs ≠ []) :
    read min max ('-' :: cs) = mirrored (readUp (-min) 0 cs) := by
  cases cs with
  | nil => exact absurd rfl h
  | cons c cs => exact (if_pos hmin).trans (readDown_eq min 0 (c :: cs))

theorem read_unsigned (h : cs ≠ []) (hplus : cs.head? ≠ some '+') (hminus : cs.head? ≠ some '-') :
    read min max cs = readUp max 0 cs := by
  rw [read]
  · exact h
  · rintro rfl
    exact hplus rfl
  · rintro rfl
    exact hminus rfl
  · rintro ds rfl
    exact hplus rfl
  · rintro ds rfl
    exact hminus rfl

theorem Digits.head_ne {c : Char} (h : Digits ds) (hc : c.isDigit = false) : ds.head? ≠ some c := by
  intro hhead
  exact Bool.false_ne_true (hc.symm.trans (h c (List.mem_of_head? hhead)))

/-! ### Outcomes -/

section Outcome

variable (hmin : min < 0)

include hmin

/-- **A numeral within the bounds is read.** -/
theorem Denotes.read_eq (h : Denotes cs n) (hlow : min ≤ n) (hhigh : n ≤ max) :
    read min max cs = .ok n := by
  cases h with
  | unsigned hne hds =>
    rw [read_unsigned hne (hds.head_ne rfl) (hds.head_ne rfl)]
    exact readUp_of_digits hds hhigh
  | plus hne hds =>
    rw [read_plus hne]
    exact readUp_of_digits hds hhigh
  | minus hne hds =>
    rw [read_minus hmin hne, readUp_of_digits hds (by omega), mirrored]

/-- **Every fault is reported.** -/
theorem Faulty.read_eq (h : Faulty min max cs fault) : read min max cs = .error fault := by
  cases h with
  | empty => rfl
  | barePlus => rfl
  | bareMinus => rfl
  | unsigned hplus hminus hstops =>
    rw [read_unsigned hstops.ne_nil hplus hminus, hstops.readUp_eq]
  | plus hstops =>
    rw [read_plus hstops.ne_nil, hstops.readUp_eq]
  | minus hstops =>
    rw [read_minus hmin hstops.ne_nil, hstops.readUp_eq, mirrored]

variable (hmax : 0 ≤ max)

include hmax

/-- **Every text is a numeral within the bounds or faulty.** -/
theorem denotes_or_faulty (cs : List Char) :
    (∃ n, Denotes cs n ∧ min ≤ n ∧ n ≤ max) ∨ ∃ fault, Faulty min max cs fault := by
  rcases cs with - | ⟨c, ds⟩
  · exact .inr ⟨_, .empty⟩
  by_cases hplus : c = '+'
  · subst hplus
    by_cases hne : ds = []
    · subst hne
      exact .inr ⟨_, .barePlus⟩
    rcases digits_or_stops hmax ds with ⟨hds, hvalue⟩ | ⟨fault, hstops⟩
    · exact .inl ⟨_, .plus hne hds, by omega, hvalue⟩
    · exact .inr ⟨_, .plus hstops⟩
  by_cases hminus : c = '-'
  · subst hminus
    by_cases hne : ds = []
    · subst hne
      exact .inr ⟨_, .bareMinus⟩
    -- Behind a minus sign the digits count against the mirrored bound.
    have hmirror : 0 ≤ -min := by omega
    rcases digits_or_stops hmirror ds with ⟨hds, hvalue⟩ | ⟨fault, hstops⟩
    · exact .inl ⟨_, .minus hne hds, by omega, by omega⟩
    · exact .inr ⟨_, .minus hstops⟩
  rcases digits_or_stops hmax (c :: ds) with ⟨hds, hvalue⟩ | ⟨fault, hstops⟩
  · exact .inl ⟨_, .unsigned (List.cons_ne_nil c ds) hds, by omega, hvalue⟩
  · have hhead {s : Char} (h : c ≠ s) : (c :: ds).head? ≠ some s :=
      fun hs => h (Option.some.inj hs)
    exact .inr ⟨_, .unsigned (hhead hplus) (hhead hminus) hstops⟩

/-- **What is read** is what the text denotes, if that is within the bounds. -/
theorem read_eq_ok : read min max cs = .ok n ↔ Denotes cs n ∧ min ≤ n ∧ n ≤ max :=
  outcome_eq_ok_iff (fun _ h => h.1.read_eq hmin h.2.1 h.2.2) (fun _ h => h.read_eq hmin)
    (denotes_or_faulty hmin hmax cs)

/-- **What is not read** fails for the reason that comes first in the text. -/
theorem read_eq_error : read min max cs = .error fault ↔ Faulty min max cs fault :=
  outcome_eq_error_iff (fun _ h => h.1.read_eq hmin h.2.1 h.2.2) (fun _ h => h.read_eq hmin)
    (denotes_or_faulty hmin hmax cs)

end Outcome

end Sign

end Numeral

end KafkaWire
