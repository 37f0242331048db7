import KafkaWire.Proofs.Text.Numeral
import KafkaWire.Proofs.Text.Separator

/-!
# The texts that denote endpoints

A host may hold colons and a numeral may not, so a text has at most one reading: the last colon
separates the port. The numeral may carry a sign and leading zeros, and so an endpoint has many
spellings; behind a minus sign only the port zero is left.

The grammar and the faults are stated without the functions that read. The last colon is the one
with no colon behind it, the port is what the digits denote, and a fault is what is wrong with the
text first, from the separator to the range of ports. A text that is described by either is read
accordingly, and every text is described by one of them: this settles both directions at once.

## Main definitions

* `Endpoint.Cut` — a text and its two sides
* `Endpoint.Spells` — the texts that denote an endpoint
* `Endpoint.Malformed` — why a text denotes none

## Main results

* `Endpoint.Spells.parse_eq`, `Endpoint.Malformed.parse_eq`, `Endpoint.spells_or_malformed` — every
  text is one or the other, and read as such
* `Endpoint.parse_outcome` — what is read, and what is not
-/

namespace KafkaWire

namespace Endpoint

/-! ### The grammar -/

/-- The last colon of the text stands between the two sides. -/
def Cut (text host port : String) : Prop := text = host ++ ":" ++ port ∧ ':' ∉ port.toList

/-- The text is a host, a colon and a numeral of a port. -/
def Spells (text : String) (e : Endpoint) : Prop :=
  e.host ≠ "" ∧ ∃ port, Cut text e.host port ∧ Numeral.Denotes port.toList e.port.toInt ∧
    0 ≤ e.port.toInt ∧ e.port.toInt ≤ 65535

/-- Why the text denotes no endpoint. The faults exclude one another: a missing side counts before
a faulty numeral, and a numeral that is none of the type before one that is no port. -/
inductive Malformed (text : String) : Error → Prop
  | noPort : ':' ∉ text.toList → Malformed text (.settings (.noPort text))
  | noHost {port : String} : Cut text "" port → Malformed text (.settings (.noHost text))
  | invalidPort {host port : String} {fault : NumeralFault} : host ≠ "" → Cut text host port →
    Numeral.Faulty Int32.minValue.toInt Int32.maxValue.toInt port.toList fault →
      Malformed text (.settings (.invalidPort text fault))
  | portRange {host port : String} {n : Int} : host ≠ "" → Cut text host port →
    Numeral.Denotes port.toList n → Int32.minValue.toInt ≤ n → n ≤ Int32.maxValue.toInt →
      ¬ (0 ≤ n ∧ n ≤ 65535) → Malformed text (.settings (.portRange n text))

variable {text host port : String} {e : Endpoint} {error : Error} {n : Int}

theorem cut_iff : Cut text host port ↔
    text.toList = host.toList ++ ':' :: port.toList ∧ ':' ∉ port.toList := by
  rw [Cut, ← String.toList_inj, String.toList_append, String.toList_append, List.append_assoc]
  rfl

theorem exists_cut (h : ':' ∈ text.toList) : ∃ host port, Cut text host port := by
  obtain ⟨host, port, hcut, hport⟩ := Text.exists_last_cut h
  refine ⟨.ofList host, .ofList port, cut_iff.mpr ?_⟩
  rw [String.toList_ofList, String.toList_ofList]
  exact ⟨hcut, hport⟩

/-! ### Reading -/

theorem Cut.splitAtLast?_eq (h : Cut text host port) :
    splitAtLast? ':' text.toList = some (host.toList, port.toList) := by
  obtain ⟨htext, hport⟩ := cut_iff.mp h
  rw [htext, splitAtLast?_append_cons hport host.toList]

theorem Cut.parse_eq_noHost (h : Cut text "" port) :
    parse text = .error (.settings (.noHost text)) := by
  rw [parse, h.splitAtLast?_eq]
  rfl

section Port

variable (hhost : host ≠ "") (h : Cut text host port)

include hhost h

theorem Cut.parse_of_read_ok
    (hread : Numeral.read Int32.minValue.toInt Int32.maxValue.toInt port.toList = .ok n) :
    parse text = if 0 ≤ n ∧ n ≤ 65535 then .ok ⟨host, Int32.ofInt n⟩
      else .error (.settings (.portRange n text)) := by
  obtain ⟨c, cs, hcs⟩ := List.exists_cons_of_ne_nil (mt String.toList_eq_nil_iff.mp hhost)
  rw [parse, h.splitAtLast?_eq, hcs]
  dsimp only
  rw [hread, ← hcs, String.ofList_toList]

theorem Cut.parse_of_read_error {fault : NumeralFault}
    (hread : Numeral.read Int32.minValue.toInt Int32.maxValue.toInt port.toList = .error fault) :
    parse text = .error (.settings (.invalidPort text fault)) := by
  obtain ⟨c, cs, hcs⟩ := List.exists_cons_of_ne_nil (mt String.toList_eq_nil_iff.mp hhost)
  rw [parse, h.splitAtLast?_eq, hcs]
  dsimp only
  rw [hread]

end Port

/-- A port is first read as any number of its type. -/
theorem readPort_eq_ok {cs : List Char} :
    Numeral.read Int32.minValue.toInt Int32.maxValue.toInt cs = .ok n ↔
      Numeral.Denotes cs n ∧ Int32.minValue.toInt ≤ n ∧ n ≤ Int32.maxValue.toInt :=
  Numeral.read_eq_ok (by decide) (by decide)

theorem readPort_eq_error {cs : List Char} {fault : NumeralFault} :
    Numeral.read Int32.minValue.toInt Int32.maxValue.toInt cs = .error fault ↔
      Numeral.Faulty Int32.minValue.toInt Int32.maxValue.toInt cs fault :=
  Numeral.read_eq_error (by decide) (by decide)

/-- **A spelling is read.** -/
theorem Spells.parse_eq (h : Spells text e) : parse text = .ok e := by
  obtain ⟨hhost, port, hcut, hdenotes, hlow, hhigh⟩ := h
  have hbelow : Int32.minValue.toInt ≤ e.port.toInt := Int.le_trans (by decide) hlow
  have habove : e.port.toInt ≤ Int32.maxValue.toInt := Int.le_trans hhigh (by decide)
  have hread := readPort_eq_ok.mpr ⟨hdenotes, hbelow, habove⟩
  rw [hcut.parse_of_read_ok hhost hread, if_pos ⟨hlow, hhigh⟩, Int32.ofInt_toInt]

/-- **Every fault is reported.** -/
theorem Malformed.parse_eq (h : Malformed text error) : parse text = .error error := by
  cases h with
  | noPort hcolon => rw [parse, splitAtLast?_of_notMem hcolon]
  | noHost hcut => exact hcut.parse_eq_noHost
  | invalidPort hhost hcut hfaulty =>
    exact hcut.parse_of_read_error hhost (readPort_eq_error.mpr hfaulty)
  | portRange hhost hcut hdenotes hbelow habove hrange =>
    have hread := readPort_eq_ok.mpr ⟨hdenotes, hbelow, habove⟩
    rw [hcut.parse_of_read_ok hhost hread, if_neg hrange]

/-- **Every text is a spelling or malformed.** The cases are those of the reader, in its order. -/
theorem spells_or_malformed (text : String) :
    (∃ e, Spells text e) ∨ ∃ error, Malformed text error := by
  by_cases hcolon : ':' ∉ text.toList
  · exact .inr ⟨_, .noPort hcolon⟩
  obtain ⟨host, port, hcut⟩ := exists_cut (Decidable.not_not.mp hcolon)
  by_cases hhost : host = ""
  · subst hhost
    exact .inr ⟨_, .noHost hcut⟩
  cases hread : Numeral.read Int32.minValue.toInt Int32.maxValue.toInt port.toList with
  | error fault => exact .inr ⟨_, .invalidPort hhost hcut (readPort_eq_error.mp hread)⟩
  | ok n =>
    obtain ⟨hdenotes, hbelow, habove⟩ := readPort_eq_ok.mp hread
    by_cases hrange : 0 ≤ n ∧ n ≤ 65535
    · have hport : (Int32.ofInt n).toInt = n := Int32.toInt_ofInt_of_le (by omega) (by omega)
      refine .inl ⟨⟨host, Int32.ofInt n⟩, hhost, port, hcut, ?_⟩
      rw [hport]
      exact ⟨hdenotes, hrange⟩
    · exact .inr ⟨_, .portRange hhost hcut hdenotes hbelow habove hrange⟩

/-- **What is read** is the endpoint that the text spells. -/
theorem parse_eq_ok : parse text = .ok e ↔ Spells text e :=
  outcome_eq_ok_iff (fun _ h => h.parse_eq) (fun _ h => h.parse_eq) (spells_or_malformed text)

/-- **What is not read** is refused for what is wrong with it. -/
theorem parse_eq_error : parse text = .error error ↔ Malformed text error :=
  outcome_eq_error_iff (fun _ h => h.parse_eq) (fun _ h => h.parse_eq) (spells_or_malformed text)

theorem Malformed.exists_fault (h : Malformed text error) : ∃ fault, error = .settings fault := by
  cases h <;> exact ⟨_, rfl⟩

/-- **A host and a port in decimal** spell the endpoint. -/
theorem spells_decimal (hhost : host ≠ "") {port : Nat} (hport : port ≤ 65535) :
    Spells (host ++ ":" ++ toString port) ⟨host, Int32.ofNat port⟩ := by
  have hdigits : (toString port).toList = Nat.toDigits 10 port := Nat.toList_repr
  have hvalue : (Int32.ofNat port).toInt = port := Int32.toInt_ofNat_of_lt (by omega)
  refine ⟨hhost, toString port, ⟨rfl, ?_⟩, ?_⟩
  · rw [hdigits]
    intro hcolon
    exact absurd (Nat.isDigit_of_mem_toDigits (by decide) (by decide) hcolon) (by decide)
  · rw [hdigits, hvalue]
    exact ⟨Numeral.denotes_toDigits port, by omega, by omega⟩

/-- **Which texts are endpoints.**

A text is read as an endpoint exactly if it is a host that is not empty, a colon, and decimal digits
behind an optional sign whose value is a port. The host may hold colons, what follows it none, and
the digits may begin with any number of zeros.

Every other text is refused as a fault of the settings, which carries the text and says what is
wrong with it: no colon, no host, no numeral of the type of ports, or a number that is no port.

A host and a port written in decimal are read back. -/
theorem parse_outcome (text : String) :
    (∀ e, parse text = .ok e ↔ Spells text e) ∧
    ((∀ e, ¬ Spells text e) → ∃ fault, parse text = .error (.settings fault)) ∧
    (∀ error, parse text = .error error ↔ Malformed text error) ∧
    ∀ (host : String) (port : Nat), host ≠ "" → port ≤ 65535 →
      text = host ++ ":" ++ toString port → parse text = .ok ⟨host, Int32.ofNat port⟩ := by
  refine ⟨fun _ => parse_eq_ok, fun hnone => ?_, fun _ => parse_eq_error, ?_⟩
  · obtain ⟨error, hmalformed⟩ := (spells_or_malformed text).resolve_left (not_exists.mpr hnone)
    obtain ⟨fault, rfl⟩ := hmalformed.exists_fault
    exact ⟨fault, hmalformed.parse_eq⟩
  · rintro host port hhost hport rfl
    exact (spells_decimal hhost hport).parse_eq

/-- A host of colons before a padded port, the first number that is no port, and a host of colons
before a port in decimal. -/
theorem parse_outcome_colons :
    (Spells "::1:+080" ⟨"::1", 80⟩ ∧ parse "::1:+080" = .ok ⟨"::1", 80⟩) ∧
    ((∀ e, ¬ Spells "h:65536" e) ∧ ∃ fault, parse "h:65536" = .error (.settings fault)) ∧
    ("::1:9092" = "::1" ++ ":" ++ toString 9092 ∧ parse "::1:9092" = .ok ⟨"::1", 9092⟩) := by
  have numeral : Numeral.Denotes ['+', '0', '8', '0'] 80 := .plus (by decide) (by decide)
  have spelled : Spells "::1:+080" ⟨"::1", 80⟩ :=
    ⟨by decide, "+080", ⟨by decide, by decide⟩, numeral, by decide, by decide⟩
  have unspelled : ∀ e, ¬ Spells "h:65536" e := by
    intro e h
    have hparse := ((parse_outcome "h:65536").1 e).mpr h
    cases hparse
  have decimal : "::1:9092" = "::1" ++ ":" ++ toString 9092 := by decide
  exact ⟨⟨spelled, ((parse_outcome _).1 _).mpr spelled⟩,
    ⟨unspelled, (parse_outcome _).2.1 unspelled⟩,
    decimal, (parse_outcome _).2.2.2 "::1" 9092 (by decide) (by decide) decimal⟩

end Endpoint

end KafkaWire
