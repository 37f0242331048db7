import KafkaWire.Endpoint
import KafkaWire.Json.Tree
import KafkaWire.Text.Blank

/-!
# Settings

The limits on frames and the endpoints that are advertised in place of brokers, as they are given
by a JSON document or by variables of the environment.

A document is an object, whose unknown members are passed over, or a list of the settings by
position; likewise for each mapping in it. Settings that are not given keep their defaults.

## Main definitions

* `Settings` — the limits and the mappings, as texts
* `Settings.ofJson`, `Settings.ofVariables` — checked settings
* `Settings.validate` — the check
* `Settings.addressTable` — the mappings as endpoints
-/

namespace KafkaWire

/-- A broker and what is advertised in its place, each as `host:port`. -/
structure BrokerMapping where
  broker : String
  advertised : String
  deriving DecidableEq, Repr

/-- The settings. -/
structure Settings where
  /-- The largest request frame taken from a client. -/
  maxRequestSize : Nat := 100 * 1024 * 1024
  /-- The largest response frame taken from a broker. -/
  maxResponseSize : Nat := 100 * 1024 * 1024
  mappings : List BrokerMapping := []
  deriving DecidableEq, Repr

namespace Settings

/-- One mapping more. -/
def addMapping (s : Settings) (broker advertised : String) : Settings :=
  { s with mappings := s.mappings ++ [⟨broker, advertised⟩] }

/-- Checks every mapping, the broker before what is advertised. -/
def validateMappings : List BrokerMapping → Except Error Unit
  | [] => .ok ()
  | mapping :: rest => do
    discard <| Endpoint.parse mapping.broker
    discard <| Endpoint.parse mapping.advertised
    validateMappings rest

/-- Checks that the limits are positive and that all mappings are endpoints. -/
def validate (s : Settings) : Except Error Unit :=
  if s.maxRequestSize = 0 ∨ s.maxResponseSize = 0 then .error (.settings .zeroLimit)
  else validateMappings s.mappings

/-- Adds mappings to a table, later ones over earlier ones. -/
def addMappings (table : AddressTable) : List BrokerMapping → Except Error AddressTable
  | [] => .ok table
  | mapping :: rest => do
    let broker ← Endpoint.parse mapping.broker
    let advertised ← Endpoint.parse mapping.advertised
    addMappings (table.insert broker advertised) rest

/-- The mappings as a table of endpoints. -/
def addressTable (s : Settings) : Except Error AddressTable := addMappings {} s.mappings

/-! ### Documents -/

/-- The largest size that can be set. -/
def maxSize : Nat := 0xffffffffffffffff

/-- The size that a value denotes. -/
def size? : Json → Option Nat
  | .number (some n) => if n ≤ maxSize then some n else none
  | _ => none

/-- The text that a value denotes. -/
def text? : Json → Option String
  | .string text => text
  | _ => none

/-- The member of that name, or `none` within if there is no such member. A name that denotes no
text, anywhere, and a repetition of this one are refused. -/
def member? (name : String) : List (Option String × Json) → Option (Option Json)
  | [] => some none
  | (none, _) :: _ => none
  | (some key, value) :: rest => do
    match ← member? name rest with
    | none => return if key = name then some value else none
    | some found => if key = name then none else return some found

/-- The mapping that a value denotes. -/
def mapping? : Json → Option BrokerMapping
  | .object members => do
    let broker ← text? (← (← member? "broker" members))
    let advertised ← text? (← (← member? "advertised" members))
    return ⟨broker, advertised⟩
  | .array [broker, advertised] => do return ⟨← text? broker, ← text? advertised⟩
  | _ => none

/-- The mappings that a value denotes. -/
def mappings? : Json → Option (List BrokerMapping)
  | .array items => items.mapM mapping?
  | _ => none

/-- What a part of a document denotes, or the default if it is missing. -/
def partOr {α : Type} (default : α) (read? : Json → Option α) : Option Json → Option α
  | none => some default
  | some value => read? value

/-- The settings of which the parts are given, as far as they are. -/
def ofParts? (maxRequestSize maxResponseSize mappings : Option Json) : Option Settings := do
  let defaults : Settings := {}
  return {
    maxRequestSize := ← partOr defaults.maxRequestSize size? maxRequestSize
    maxResponseSize := ← partOr defaults.maxResponseSize size? maxResponseSize
    mappings := ← partOr defaults.mappings mappings? mappings }

/-- The settings that a value denotes. -/
def ofValue? : Json → Option Settings
  | .object members => do
    ofParts? (← member? "max_request_size" members) (← member? "max_response_size" members)
      (← member? "broker_mappings" members)
  | .array items => if items.length ≤ 3 then ofParts? items[0]? items[1]? items[2]? else none
  | _ => none

/-- The settings that a document gives, checked. -/
def ofJson (text : String) : Except Error Settings := do
  match (Json.parse? text).bind ofValue? with
  | none => throw (.settings .invalidJson)
  | some s =>
    s.validate
    return s

/-- The settings as a document. -/
def toJson (s : Settings) : String :=
  let mapping (m : BrokerMapping) : String :=
    "\x7b\"broker\":" ++ Json.quote m.broker ++ ",\"advertised\":" ++ Json.quote m.advertised ++
      "\x7d"
  "\x7b\"max_request_size\":" ++ toString s.maxRequestSize ++ ",\"max_response_size\":" ++
    toString s.maxResponseSize ++ ",\"broker_mappings\":[" ++
    ",".intercalate (s.mappings.map mapping) ++ "]\x7d"

/-! ### Variables -/

/-- The variable of the largest request. -/
def requestSizeVariable : String := "KAFKA_PROXY_MAX_REQUEST_SIZE"

/-- The variable of the largest response. -/
def responseSizeVariable : String := "KAFKA_PROXY_MAX_RESPONSE_SIZE"

/-- The variable of the mappings, `broker,advertised` separated by semicolons. -/
def mappingsVariable : String := "KAFKA_PROXY_BROKER_MAPPINGS"

/-- The size that the value of a variable denotes. -/
def parseSize (key text : String) : Except Error Nat :=
  match Numeral.read 0 maxSize (Text.trimChars text.toList) with
  | .ok n => .ok n.toNat
  | .error fault => .error (.settings (.invalidSize key text fault))

/-- The segments between the occurrences of a character. -/
def splitAt (c : Char) : List Char → List (List Char)
  | [] => [[]]
  | x :: xs =>
    if x = c then [] :: splitAt c xs
    else
      match splitAt c xs with
      | [] => [[x]]
      | segment :: segments => (x :: segment) :: segments

/-- The mapping that a trimmed segment denotes. Its first comma separates the sides. -/
def parseMapping (segment : List Char) : Except Error BrokerMapping :=
  match segment.span (· ≠ ',') with
  | (_, []) => .error (.settings (.noAdvertised mappingsVariable (.ofList segment)))
  | (broker, _ :: advertised) =>
    .ok ⟨.ofList (Text.trimChars broker), .ofList (Text.trimChars advertised)⟩

/-- The mappings that a list denotes; blank segments do not count. -/
def parseMappings (text : String) : Except Error (List BrokerMapping) :=
  (((splitAt ';' text.toList).map Text.trimChars).filter (· ≠ [])).mapM parseMapping

/-- The settings that variables give, checked. -/
def ofVariables (lookup : String → Option String) : Except Error Settings := do
  let mut s : Settings := {}
  if let some text := lookup requestSizeVariable then
    s := { s with maxRequestSize := ← parseSize requestSizeVariable text }
  if let some text := lookup responseSizeVariable then
    s := { s with maxResponseSize := ← parseSize responseSizeVariable text }
  if let some text := lookup mappingsVariable then
    s := { s with mappings := ← parseMappings text }
  s.validate
  return s

end Settings

end KafkaWire
