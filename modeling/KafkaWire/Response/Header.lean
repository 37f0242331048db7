import KafkaWire.Wire.Primitive

/-!
# Response headers

A response begins with the number that links it to its request, in header version 1 followed by a
tag buffer.

## Main definitions

* `ResponseHeader` — the header, without tags in version 0
* `ResponseHeader.reader`, `ResponseHeader.write` — the header of some version on the wire
-/

namespace KafkaWire

/-- The header of a response. -/
structure ResponseHeader where
  correlationId : Int32
  tags : TagBuffer := {}
  deriving DecidableEq, Repr

namespace ResponseHeader

/-- Reads a header of the version. -/
def reader (version : Int16) : Reader ResponseHeader := do
  let correlationId ← Reader.int32
  let tags ← if 1 ≤ version then TagBuffer.read else pure {}
  return { correlationId, tags }

/-- Writes a header of the version. -/
def write (version : Int16) (header : ResponseHeader) : Output :=
  .chunk (.int32 header.correlationId) ++ if 1 ≤ version then header.tags.write else .empty

end ResponseHeader

end KafkaWire
