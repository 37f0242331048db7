import KafkaWire.Text.Printable

/-!
# Quoted text

How a text is shown inside a message: between double quotes, on one line, with every character
that would not show as itself written as an escape.

## Main definitions

* `escapeChar` — one character as it stands between the quotes
* `quote` — a text between its quotes
* `quoteList` — a list of texts in square brackets
-/

namespace KafkaWire

namespace Text

/-- A character between the quotes: quotes and backslashes behind a backslash, NUL, tab, carriage
return and line feed by their letters, and any other hidden character by its code point. -/
def escapeChar (c : Char) : List Char :=
  match c with
  | '"' => ['\\', '"']
  | '\\' => ['\\', '\\']
  | '\x00' => ['\\', '0']
  | '\t' => ['\\', 't']
  | '\r' => ['\\', 'r']
  | '\n' => ['\\', 'n']
  | c =>
    if isPrintable c then [c]
    else ['\\', 'u', '\x7b'] ++ Nat.toDigits 16 c.toNat ++ ['\x7d']

/-- The text between double quotes. -/
def quote (s : String) : String :=
  .ofList (['"'] ++ s.toList.flatMap escapeChar ++ ['"'])

/-- The quoted texts in square brackets, separated by commas. -/
def quoteList (ss : List String) : String :=
  "[" ++ ", ".intercalate (ss.map quote) ++ "]"

end Text

end KafkaWire
