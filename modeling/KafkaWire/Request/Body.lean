import KafkaWire.Request.Api

/-!
# Request bodies

What follows the header of a request: the contents of one request type in one supported version.

## Main definitions

* `Body` — contents with their request type and version
* `Body.empty` — the body to start from, for a key and version
* `Body.reader`, `Body.write` — bodies on the wire
-/

namespace KafkaWire

/-- The contents of a request in a supported version. -/
structure Body where
  api : Api
  version : Int16
  layout : api.Layout
  supported : api.supports version = true

namespace Body

/-- The body without contents, of one request type. Other keys and unsupported versions are
refused. -/
def emptyOf (api : Api) (code version : Int16) : Except Error Body :=
  if code ≠ api.code then .error (.unsupportedApiKey code)
  else if h : api.supports version = true then .ok ⟨api, version, api.emptyLayout, h⟩
  else .error (.unsupportedApiVersion code version)

/-- The body without contents, for a key and version. -/
def empty (code version : Int16) : Except Error Body := do
  emptyOf (← Api.ofCode code) code version

/-- The layout of a body of this type and version. -/
def format (body : Body) : Format body.api.Layout := body.api.format body.version

/-- The same body with other contents. -/
def withLayout (body : Body) (layout : body.api.Layout) : Body := { body with layout }

/-- Reads contents into a body of the same type and version. -/
def reader (body : Body) : Reader Body := do
  return body.withLayout (← body.format.read)

/-- Writes the contents. -/
def write (body : Body) : Output := body.format.write body.layout

/-- The body that a complete buffer spells. -/
def decode (code version : Int16) (bs : Bytes) : Except Error Body := do
  (← empty code version).reader.all bs

/-- The bytes of a body. -/
def encode (body : Body) : Except Error Bytes := body.write.encode

/-- The topics that the body names. -/
def topics (body : Body) : List String := body.api.topics body.layout

/-- The consumer groups that the body names. -/
def groups (body : Body) : List String := body.api.groups body.layout

/-- Whether the body covers every topic of the cluster without naming them. -/
def allTopics (body : Body) : Bool := body.api.coversAllTopics body.layout body.version

end Body

end KafkaWire
