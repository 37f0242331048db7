import KafkaWire.Request.Api

/-!
# The head of a request frame

Every request frame begins with eight bytes: the length of what follows the length field, the api
key and the api version. They suffice to route a frame and to choose how it is decoded.

## Main definitions

* `FrameHead` — the three numbers
* `FrameHead.peek` — the head of a frame, looking at nothing else
* `FrameHead.requestHeaderVersion`, `FrameHead.responseHeaderVersion` — the headers to expect
-/

namespace KafkaWire

/-- The first eight bytes of a request frame. -/
structure FrameHead where
  /-- The size of the frame after the length field. -/
  length : Int32
  apiKey : Int16
  apiVersion : Int16
  deriving DecidableEq, Repr

namespace FrameHead

/-- The size of a head. -/
def size : Nat := 8

/-- Reads a head. The length must exceed that of the key and the version. -/
def reader : Reader FrameHead := do
  let length ← Reader.int32
  if length ≤ 4 then throw (.packetDecoding (.requestLength length))
  let apiKey ← Reader.int16
  let apiVersion ← Reader.int16
  return { length, apiKey, apiVersion }

/-- The head of a frame. Only its first eight bytes are looked at. -/
def peek (frame : Bytes) : Except Error FrameHead :=
  if hasAtLeast size frame then reader.all (frame.take size) else .error .insufficientData

/-- The version of the request's header: 2, with a tag buffer, for flexible versions, and 1 for
the others. -/
def requestHeaderVersion (head : FrameHead) : Except Error Int16 := do
  let flexible ← Api.flexibleVersion? head.apiKey head.apiVersion
  return if flexible ≤ head.apiVersion then 2 else 1

/-- The version of the response's header: 1 for flexible versions and 0 for the others. -/
def responseHeaderVersion (head : FrameHead) : Except Error Int16 := do
  return (← head.requestHeaderVersion) - 1

end FrameHead

end KafkaWire
