import KafkaWire.Error

/-!
# Endpoints

Where a broker can be reached: a host and a port, written `host:port`. The host may contain
colons itself, so the last one separates the port.

## Main definitions

* `Endpoint` — a host and a port
* `Endpoint.parse` — the endpoint that a text denotes
* `AddressTable` — endpoints and those to be used in their place
-/

namespace KafkaWire

/-- A host and a port. -/
structure Endpoint where
  host : String
  port : Int32
  deriving DecidableEq, Repr

namespace Endpoint

/-- What stands before and after the last occurrence of a character. -/
def splitAtLast? (c : Char) (cs : List Char) : Option (List Char × List Char) :=
  let tail := cs.reverse.takeWhile (· ≠ c)
  match cs.reverse.dropWhile (· ≠ c) with
  | [] => none
  | _ :: front => some (front.reverse, tail.reverse)

/-- The endpoint that a text denotes: something, a colon, and a decimal number that is a port. -/
def parse (text : String) : Except Error Endpoint :=
  match splitAtLast? ':' text.toList with
  | none => .error (.settings (.noPort text))
  | some ([], _) => .error (.settings (.noHost text))
  | some (host, port) =>
    match Numeral.read Int32.minValue.toInt Int32.maxValue.toInt port with
    | .error fault => .error (.settings (.invalidPort text fault))
    | .ok n =>
      if 0 ≤ n ∧ n ≤ 65535 then .ok ⟨.ofList host, Int32.ofInt n⟩
      else .error (.settings (.portRange n text))

end Endpoint

/-- Endpoints, each with the one to be used in its place. No endpoint has two entries. -/
structure AddressTable where
  entries : List (Endpoint × Endpoint) := []
  deriving DecidableEq, Repr, Inhabited

namespace AddressTable

/-- The number of endpoints with an entry. -/
def size (table : AddressTable) : Nat := table.entries.length

/-- Whether no endpoint has an entry. -/
def isEmpty (table : AddressTable) : Bool := table.entries.isEmpty

/-- Has `advertised` used in place of `broker` from now on. -/
def insert (table : AddressTable) (broker advertised : Endpoint) : AddressTable :=
  ⟨table.entries.filter (·.1 ≠ broker) ++ [(broker, advertised)]⟩

/-- The endpoint to be used in place of the given one. An empty host is a placeholder, such as
brokers send while there is no coordinator, and stands for itself. -/
def map (table : AddressTable) (e : Endpoint) : Except Error Endpoint :=
  if e.host = "" then .ok e
  else
    match table.entries.lookup e with
    | some advertised => .ok advertised
    | none => .error (.addressMapping (.unmapped e.host e.port))

end AddressTable

end KafkaWire
