/-!
# Decimal numerals

Reading an integer of a bounded type from text: an optional sign and at least one ASCII digit,
and nothing else. Where a text has several faults the leftmost is reported, and a character that
is no digit counts before the overflow it would have caused.

## Main definitions

* `NumeralFault` — why a text is no numeral of the type
* `Numeral.read` — the integer that a text denotes, within bounds
-/

namespace KafkaWire

/-- Why a text does not denote an integer of the wanted type. -/
inductive NumeralFault
  | empty
  | invalidDigit
  | tooLarge
  | tooSmall
  deriving DecidableEq, Repr

/-- The wording of a fault. -/
def NumeralFault.message : NumeralFault → String
  | .empty => "cannot parse integer from empty string"
  | .invalidDigit => "invalid digit found in string"
  | .tooLarge => "number too large to fit in target type"
  | .tooSmall => "number too small to fit in target type"

namespace Numeral

/-- The value of an ASCII digit. -/
def digit? (c : Char) : Option Nat :=
  if '0' ≤ c ∧ c ≤ '9' then some (c.toNat - '0'.toNat) else none

/-- Digits counted upwards from `value`, which must never pass `max`. -/
def readUp (max : Int) (value : Int) : List Char → Except NumeralFault Int
  | [] => .ok value
  | c :: cs =>
    match digit? c with
    | none => .error .invalidDigit
    | some d => if max < value * 10 + d then .error .tooLarge else readUp max (value * 10 + d) cs

/-- Digits counted downwards from `value`, which must never pass `min`. -/
def readDown (min : Int) (value : Int) : List Char → Except NumeralFault Int
  | [] => .ok value
  | c :: cs =>
    match digit? c with
    | none => .error .invalidDigit
    | some d => if value * 10 - d < min then .error .tooSmall else readDown min (value * 10 - d) cs

/-- The integer that the characters denote, if it lies between `min` and `max`. A minus sign is
read only where `min` admits negative numbers; elsewhere it is no digit. -/
def read (min max : Int) : List Char → Except NumeralFault Int
  | [] => .error .empty
  | ['+'] => .error .invalidDigit
  | ['-'] => .error .invalidDigit
  | '+' :: cs => readUp max 0 cs
  | '-' :: cs => if min < 0 then readDown min 0 cs else .error .invalidDigit
  | cs => readUp max 0 cs

end Numeral

end KafkaWire
