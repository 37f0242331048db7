import KafkaWire.ApiKey
import KafkaWire.Request.CreatePartitions
import KafkaWire.Request.CreateTopics
import KafkaWire.Request.DeleteTopics
import KafkaWire.Request.Fetch
import KafkaWire.Request.ListOffsets
import KafkaWire.Request.Metadata
import KafkaWire.Request.OffsetCommit
import KafkaWire.Request.OffsetFetch
import KafkaWire.Request.Produce

/-!
# Decoded request types

The request types that can be decoded, in all their versions, with what is known of each: its
key, its versions, its layout, and the topics and consumer groups that a request names.

A request type or version that is not listed cannot be inspected. That is an error, and never
means that the request names nothing.

## Main definitions

* `Api` — the nine request types
* `Api.versions`, `Api.flexibleVersion?` — what is supported
* `Api.Layout`, `Api.format` — the contents of a request in memory and on the wire
* `Api.topics`, `Api.groups`, `Api.coversAllTopics` — the names in a request
-/

namespace KafkaWire

/-- A request type that can be decoded. -/
inductive Api
  | produce
  | fetch
  | listOffsets
  | metadata
  | offsetCommit
  | offsetFetch
  | createTopics
  | deleteTopics
  | createPartitions
  deriving DecidableEq, Repr

namespace Api

/-- The request types, in the order of their codes. -/
def all : List Api :=
  [.produce, .fetch, .listOffsets, .metadata, .offsetCommit, .offsetFetch, .createTopics,
    .deleteTopics, .createPartitions]

/-- The key of a request type. -/
def key : Api → ApiKey
  | .produce => .produce
  | .fetch => .fetch
  | .listOffsets => .listOffsets
  | .metadata => .metadata
  | .offsetCommit => .offsetCommit
  | .offsetFetch => .offsetFetch
  | .createTopics => .createTopics
  | .deleteTopics => .deleteTopics
  | .createPartitions => .createPartitions

/-- The code of a request type. -/
def code (api : Api) : Int16 := api.key.code

/-- The last supported version; the first is zero. -/
def lastVersion : Api → Nat
  | .produce => 9
  | .fetch => 12
  | .listOffsets => 7
  | .metadata => 12
  | .offsetCommit => 8
  | .offsetFetch => 8
  | .createTopics => 7
  | .deleteTopics => 6
  | .createPartitions => 3

/-- The supported versions, in ascending order. -/
def versions (api : Api) : List Int16 :=
  (List.range (api.lastVersion + 1)).map Int16.ofNat

/-- Whether a version is supported. -/
def supports (api : Api) (version : Int16) : Bool := api.versions.contains version

/-- The first version with compact lengths and tag buffers. -/
def firstFlexible : Api → Int16
  | .produce => Produce.firstFlexible
  | .fetch => Fetch.firstFlexible
  | .listOffsets => ListOffsets.firstFlexible
  | .metadata => Metadata.firstFlexible
  | .offsetCommit => OffsetCommit.firstFlexible
  | .offsetFetch => OffsetFetch.firstFlexible
  | .createTopics => CreateTopics.firstFlexible
  | .deleteTopics => DeleteTopics.firstFlexible
  | .createPartitions => CreatePartitions.firstFlexible

/-- The request type with a code. -/
def ofCode (code : Int16) : Except Error Api :=
  match all.find? (·.code == code) with
  | some api => .ok api
  | none => .error (.unsupportedApiKey code)

/-- Demands that a version is supported. -/
def requireVersion (api : Api) (version : Int16) : Except Error Unit :=
  if api.supports version then .ok ()
  else .error (.unsupportedApiVersion api.code version)

/-- The first flexible version of the request type with a code, provided that the type can be
decoded in the given version. -/
def flexibleVersion? (code version : Int16) : Except Error Int16 := do
  let api ← ofCode code
  api.requireVersion version
  return api.firstFlexible

/-- The contents of a request, whatever its version. -/
@[reducible] def Layout : Api → Type
  | .produce => Produce.Request
  | .fetch => Fetch.Request
  | .listOffsets => ListOffsets.Request
  | .metadata => Metadata.Request
  | .offsetCommit => OffsetCommit.Request
  | .offsetFetch => OffsetFetch.Request
  | .createTopics => CreateTopics.Request
  | .deleteTopics => DeleteTopics.Request
  | .createPartitions => CreatePartitions.Request

/-- The contents of a request on the wire. -/
def format : (api : Api) → (version : Int16) → Format api.Layout
  | .produce => Produce.Request.format
  | .fetch => Fetch.Request.format
  | .listOffsets => ListOffsets.Request.format
  | .metadata => Metadata.Request.format
  | .offsetCommit => OffsetCommit.Request.format
  | .offsetFetch => OffsetFetch.Request.format
  | .createTopics => CreateTopics.Request.format
  | .deleteTopics => DeleteTopics.Request.format
  | .createPartitions => CreatePartitions.Request.format

/-- A request that asks for nothing yet. -/
def emptyLayout : (api : Api) → api.Layout
  | .produce => ({} : Produce.Request)
  | .fetch => ({} : Fetch.Request)
  | .listOffsets => ({} : ListOffsets.Request)
  | .metadata => ({} : Metadata.Request)
  | .offsetCommit => ({} : OffsetCommit.Request)
  | .offsetFetch => ({} : OffsetFetch.Request)
  | .createTopics => ({} : CreateTopics.Request)
  | .deleteTopics => ({} : DeleteTopics.Request)
  | .createPartitions => ({} : CreatePartitions.Request)

/-! ### Names -/

/-- The topics that a request names. -/
def topics : (api : Api) → api.Layout → List String
  | .produce => Produce.Request.topicNames
  | .fetch => Fetch.Request.topicNames
  | .listOffsets => ListOffsets.Request.topicNames
  | .metadata => Metadata.Request.topicNames
  | .offsetCommit => OffsetCommit.Request.topicNames
  | .offsetFetch => OffsetFetch.Request.topicNames
  | .createTopics => CreateTopics.Request.topicNames
  | .deleteTopics => DeleteTopics.Request.topicNames
  | .createPartitions => CreatePartitions.Request.topicNames

/-- The consumer groups that a request names. -/
def groups : (api : Api) → api.Layout → List String
  | .offsetCommit => OffsetCommit.Request.groupNames
  | .offsetFetch => OffsetFetch.Request.groupNames
  | _ => fun _ => []

/-- Whether a request, in some version, covers every topic of the cluster without naming them. -/
def coversAllTopics : (api : Api) → api.Layout → (version : Int16) → Bool
  | .metadata => Metadata.Request.coversAllTopics
  | _ => fun _ _ => false

end Api

end KafkaWire
