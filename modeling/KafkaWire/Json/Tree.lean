import KafkaWire.Json.Token

/-!
# JSON values

The value that a sequence of tokens spells. It is built token by token with the unfinished arrays
and objects on a stack, so no depth of nesting is too great.

## Main definitions

* `Json` — a value
* `Json.parse?` — the value that a text spells
-/

namespace KafkaWire

/-- A JSON value. Members of objects are kept in order, repeated ones included. -/
inductive Json
  | null
  | bool (b : Bool)
  | number (natural : Option Nat)
  | string (text : Option String)
  | array (items : List Json)
  | object (members : List (Option String × Json))
  deriving Repr, Inhabited

namespace Json

/-- An array or object of which more is to come; its parts are kept last first. -/
inductive Unfinished
  | array (items : List Json)
  | object (members : List (Option String × Json))
  /-- An object that waits for the value of its last key. -/
  | member (members : List (Option String × Json)) (key : Option String)

/-- What may come next. -/
inductive Expected
  /-- A value, or if `orEnd` the end of the array. -/
  | value (orEnd : Bool)
  /-- A key, or if `orEnd` the end of the object. -/
  | key (orEnd : Bool)
  /-- The colon behind a key. -/
  | colon
  /-- A comma, or the end of what is open. -/
  | separator
  /-- Nothing: the value is complete. -/
  | nothing (whole : Json)

/-- How far a value has been built. -/
structure Builder where
  stack : List Unfinished := []
  expected : Expected := .value false

namespace Builder

/-- Takes in a complete value. -/
def finish (stack : List Unfinished) (v : Json) : Option Builder :=
  match stack with
  | [] => some ⟨[], .nothing v⟩
  | .array items :: rest => some ⟨.array (v :: items) :: rest, .separator⟩
  | .member members key :: rest => some ⟨.object ((key, v) :: members) :: rest, .separator⟩
  | .object _ :: _ => none

/-- Takes in a token where a value is due. -/
def stepValue (stack : List Unfinished) : Token → Option Builder
  | .openArray => some ⟨.array [] :: stack, .value true⟩
  | .openObject => some ⟨.object [] :: stack, .key true⟩
  | .null => finish stack .null
  | .bool b => finish stack (.bool b)
  | .number n => finish stack (.number n)
  | .string s => finish stack (.string s)
  | _ => none

/-- Takes in the end of an array. -/
def closeArray : List Unfinished → Option Builder
  | .array items :: rest => finish rest (.array items.reverse)
  | _ => none

/-- Takes in the end of an object. -/
def closeObject : List Unfinished → Option Builder
  | .object members :: rest => finish rest (.object members.reverse)
  | _ => none

/-- Takes in a token. -/
def step (b : Builder) (token : Token) : Option Builder :=
  match b.expected, token with
  | .value true, .closeArray => closeArray b.stack
  | .value _, token => stepValue b.stack token
  | .key true, .closeObject => closeObject b.stack
  | .key _, .string key =>
    match b.stack with
    | .object members :: rest => some ⟨.member members key :: rest, .colon⟩
    | _ => none
  | .colon, .colon => some ⟨b.stack, .value false⟩
  | .separator, .closeArray => closeArray b.stack
  | .separator, .closeObject => closeObject b.stack
  | .separator, .comma =>
    match b.stack with
    | .array _ :: _ => some ⟨b.stack, .value false⟩
    | .object _ :: _ => some ⟨b.stack, .key false⟩
    | _ => none
  | _, _ => none

end Builder

/-- The value that a text spells. -/
def parse? (text : String) : Option Json := do
  match (← (← tokenize? text).foldlM Builder.step {}).expected with
  | .nothing whole => some whole
  | _ => none

/-! ### Writing -/

/-- A character as it stands in a written string. -/
def escapeChar (c : Char) : List Char :=
  match c with
  | '"' => ['\\', '"']
  | '\\' => ['\\', '\\']
  | '\x08' => ['\\', 'b']
  | '\x0c' => ['\\', 'f']
  | '\n' => ['\\', 'n']
  | '\r' => ['\\', 'r']
  | '\t' => ['\\', 't']
  | c =>
    if c.toNat < 0x20 then
      ['\\', 'u', '0', '0', Nat.digitChar (c.toNat / 16), Nat.digitChar (c.toNat % 16)]
    else [c]

/-- A text as a JSON string. -/
def quote (s : String) : String :=
  .ofList (['"'] ++ s.toList.flatMap escapeChar ++ ['"'])

end Json

end KafkaWire
