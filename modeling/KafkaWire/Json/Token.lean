/-!
# The tokens of a JSON text

A JSON text is a sequence of tokens with blanks between them. A string token may hold escapes of
surrogates without partner. Such a string denotes no text, which matters only to who needs the
text, so it is a token all the same.

## Main definitions

* `Json.Token` — punctuation, constants, numbers and strings
* `Json.tokenize?` — the tokens of a text
-/

namespace KafkaWire

namespace Json

/-- A token. -/
inductive Token
  | openArray
  | closeArray
  | openObject
  | closeObject
  | comma
  | colon
  | null
  | bool (b : Bool)
  /-- A number, with its value if it is a natural one written in digits alone. -/
  | number (natural : Option Nat)
  /-- A string, with its text if it denotes one. -/
  | string (text : Option String)
  deriving DecidableEq, Repr

/-! ### Strings -/

/-- The part of a string that has been read. -/
structure StringScan where
  /-- The characters so far, last first. -/
  chars : List Char := []
  /-- A high surrogate that waits for its partner. -/
  high : Option Nat := none
  /-- Whether all surrogates before have found theirs. -/
  paired : Bool := true

namespace StringScan

/-- One more character. -/
def push (s : StringScan) (c : Char) : StringScan :=
  { chars := c :: s.chars, high := none, paired := s.paired && s.high.isNone }

/-- One more escaped unit of UTF-16. -/
def pushUnit (s : StringScan) (unit : Nat) : StringScan :=
  if 0xDC00 ≤ unit ∧ unit < 0xE000 then
    match s.high with
    | some high =>
      let c := Char.ofNat (0x10000 + (high - 0xD800) * 0x400 + (unit - 0xDC00))
      { s with chars := c :: s.chars, high := none }
    | none => { s with paired := false }
  else if 0xD800 ≤ unit ∧ unit < 0xDC00 then
    { s with high := some unit, paired := s.paired && s.high.isNone }
  else s.push (Char.ofNat unit)

/-- The text of the whole string. -/
def text? (s : StringScan) : Option String :=
  if s.paired && s.high.isNone then some (.ofList s.chars.reverse) else none

end StringScan

/-- The value of a hexadecimal digit. -/
def hexDigit? (c : Char) : Option Nat :=
  if '0' ≤ c ∧ c ≤ '9' then some (c.toNat - '0'.toNat)
  else if 'a' ≤ c ∧ c ≤ 'f' then some (c.toNat - 'a'.toNat + 10)
  else if 'A' ≤ c ∧ c ≤ 'F' then some (c.toNat - 'A'.toNat + 10)
  else none

/-- The value of four hexadecimal digits. -/
def hexUnit? (a b c d : Char) : Option Nat := do
  return (← hexDigit? a) * 0x1000 + (← hexDigit? b) * 0x100 + (← hexDigit? c) * 0x10 +
    (← hexDigit? d)

/-- The character that a letter behind a backslash stands for. -/
def escaped? : Char → Option Char
  | '"' => some '"'
  | '\\' => some '\\'
  | '/' => some '/'
  | 'b' => some '\x08'
  | 'f' => some '\x0c'
  | 'n' => some '\n'
  | 'r' => some '\r'
  | 't' => some '\t'
  | _ => none

/-- Reads the rest of a string, up to the quote that ends it. -/
def scanString (s : StringScan) : List Char → Option (Option String × List Char)
  | [] => none
  | '"' :: rest => some (s.text?, rest)
  | '\\' :: 'u' :: a :: b :: c :: d :: rest =>
    match hexUnit? a b c d with
    | some unit => scanString (s.pushUnit unit) rest
    | none => none
  | '\\' :: letter :: rest =>
    match escaped? letter with
    | some c => scanString (s.push c) rest
    | none => none
  | c :: rest => if c.toNat < 0x20 then none else scanString (s.push c) rest

/-! ### Numbers -/

/-- The leading ASCII digits, and what follows them. -/
def spanDigits (cs : List Char) : List Char × List Char := cs.span Char.isDigit

/-- Skips a fraction, if there is one. -/
def skipFraction : List Char → Option (Bool × List Char)
  | '.' :: cs =>
    match spanDigits cs with
    | ([], _) => none
    | (_, rest) => some (true, rest)
  | cs => some (false, cs)

/-- Skips a sign, if there is one. -/
def skipSign : List Char → List Char
  | '+' :: cs => cs
  | '-' :: cs => cs
  | cs => cs

/-- Skips an exponent, if there is one. -/
def skipExponent : List Char → Option (Bool × List Char)
  | 'e' :: cs | 'E' :: cs =>
    match spanDigits (skipSign cs) with
    | ([], _) => none
    | (_, rest) => some (true, rest)
  | cs => some (false, cs)

/-- Reads a number without sign: digits without superfluous zeros in front, a fraction and an
exponent. -/
def scanUnsigned (cs : List Char) : Option (Option Nat × List Char) := do
  let (digits, rest) := spanDigits cs
  if digits.isEmpty ∨ (digits.head? = some '0' ∧ 1 < digits.length) then none
  let (fraction, rest) ← skipFraction rest
  let (exponent, rest) ← skipExponent rest
  let value := digits.foldl (fun n c => n * 10 + (c.toNat - '0'.toNat)) 0
  return (if fraction || exponent then none else some value, rest)

/-! ### Tokens -/

/-- Reads one token off the front of characters that do not begin with a blank. -/
def scanToken : List Char → Option (Token × List Char)
  | '[' :: cs => some (.openArray, cs)
  | ']' :: cs => some (.closeArray, cs)
  | '\x7b' :: cs => some (.openObject, cs)
  | '\x7d' :: cs => some (.closeObject, cs)
  | ',' :: cs => some (.comma, cs)
  | ':' :: cs => some (.colon, cs)
  | 'n' :: 'u' :: 'l' :: 'l' :: cs => some (.null, cs)
  | 't' :: 'r' :: 'u' :: 'e' :: cs => some (.bool true, cs)
  | 'f' :: 'a' :: 'l' :: 's' :: 'e' :: cs => some (.bool false, cs)
  | '"' :: cs => (scanString {} cs).map fun (text, rest) => (.string text, rest)
  | '-' :: cs => (scanUnsigned cs).map fun (_, rest) => (.number none, rest)
  | cs => (scanUnsigned cs).map fun (natural, rest) => (.number natural, rest)

/-- The characters that may stand between tokens. -/
def isBlank (c : Char) : Bool := c == ' ' || c == '\n' || c == '\t' || c == '\r'

/-- Reads tokens behind those already read, which are kept last first. Every token takes at least
one character, so `fuel` may be any number not below that of the characters. -/
def tokenizeInto (fuel : Nat) (cs : List Char) (done : List Token) : Option (List Token) :=
  match cs.dropWhile isBlank with
  | [] => some done.reverse
  | cs =>
    match fuel with
    | 0 => none
    | fuel + 1 =>
      match scanToken cs with
      | some (token, rest) => tokenizeInto fuel rest (token :: done)
      | none => none

/-- The tokens of a text. -/
def tokenize? (text : String) : Option (List Token) :=
  let cs := text.toList
  tokenizeInto cs.length cs []

end Json

end KafkaWire
