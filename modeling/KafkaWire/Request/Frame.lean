import KafkaWire.Request.Body
import KafkaWire.Request.Head

/-!
# Request frames

A whole request: the length of the frame, the key and version of the request, the number that
links it to its response, the client's name for itself, in header version 2 a tag buffer, and
the body.

```
frame => length api_key api_version correlation_id client_id tag_buffer (header version 2) body
```

The client's name is in the classic form in either header version.

## Main definitions

* `Request` — a request, with tags exactly if its header has version 2
* `Request.decode`, `Request.encode` — a request as a complete frame
-/

namespace KafkaWire

/-- A request. -/
structure Request where
  correlationId : Int32
  clientId : Option String
  /-- The tag buffer of header version 2; header version 1 has none. -/
  headerTags : Option TagBuffer
  body : Body

namespace Request

/-- Reads the tag buffer of header version 2. Header version 1 has none. -/
def readTags (flexible : Bool) : Reader (Option TagBuffer) :=
  if flexible then do return some (← TagBuffer.read) else pure none

/-- Reads a body of the declared key and version. -/
def readBody (head : FrameHead) : Reader Body := do
  let empty ← MonadExcept.ofExcept (Body.empty head.apiKey head.apiVersion)
  let body ← empty.reader
  if body.api.code ≠ head.apiKey ∨ body.version ≠ head.apiVersion then
    throw (.packetDecoding
      (.wrongBody body.api.code body.version head.apiKey head.apiVersion))
  return body

/-- Reads what follows the head of a frame. -/
def readAfterHead (flexible : Bool) (head : FrameHead) : Reader Request := do
  let correlationId ← Reader.int32
  let clientId ← (Primitive.nullableString .classic).read
  let headerTags ← readTags flexible
  let body ← readBody head
  return { correlationId, clientId, headerTags, body }

/-- Reads a frame, whose header has a tag buffer if `flexible`. The declared length must be that
of all the bytes after the length field. -/
def reader (flexible : Bool) : Reader Request := do
  let head ← FrameHead.reader
  let received := (← get).length + 4
  if head.length.toInt ≠ received then
    throw (.packetDecoding (.frameLength head.length received))
  readAfterHead flexible head

/-- The request that a complete frame spells. -/
def decode (flexible : Bool) (frame : Bytes) : Except Error Request :=
  (reader flexible).all frame

/-- Writes what follows the length field. -/
def writeAfterLength (r : Request) : Output :=
  .chunk (.int16 r.body.api.code) ++ .chunk (.int16 r.body.version) ++
    .chunk (.int32 r.correlationId) ++ (Primitive.nullableString .classic).write r.clientId ++
    (match r.headerTags with
      | some tags => tags.write
      | none => .empty) ++
    r.body.write

/-- Writes a frame. Its length is counted before anything is written. -/
def write (r : Request) : Output :=
  let rest := r.writeAfterLength
  let length := (rest.feed ({} : Counter)).length
  match rest.result with
  | .error e => .fail e
  | .ok () =>
    if 0x80000000 ≤ length then .fail (.packetEncoding (.frameTooLong length))
    else .chunk (.int32 (Int32.ofNat length)) ++ rest

/-- The frame of a request. -/
def encode (r : Request) : Except Error Bytes := r.write.encode

end Request

end KafkaWire
