import KafkaWire.Wire.Format

/-!
# Metadata requests

The topics of which a client wants to know brokers and partitions.

```
request => [topics] (or null from version 1) allow_auto_topic_creation (from version 4)
           include_cluster_authorized_operations (8 to 10)
           include_topic_authorized_operations (8)
topic   => topic_id (10) name (or null from 10)
```

Version 9 is the first flexible one. Every topic of the cluster is meant by a null list, and in
version 0, which has no null list, by an empty one.
-/

namespace KafkaWire

namespace Metadata

/-- The first request version with compact lengths and tag buffers. -/
def firstFlexible : Int16 := 9

/-- A topic, by name or by identifier. -/
structure Topic where
  id : Uuid := Uuid.zero
  /-- Null where the topic is meant by its identifier. -/
  name : Option String := none
  tags : TagBuffer := {}
  deriving DecidableEq, Repr, Inhabited

/-- A metadata request of any version. -/
structure Request where
  /-- The topics, or null for all. -/
  topics : Option (List Topic) := some []
  allowAutoTopicCreation : Bool := true
  includeClusterAuthorizedOperations : Bool := false
  includeTopicAuthorizedOperations : Bool := false
  tags : TagBuffer := {}
  deriving DecidableEq, Repr, Inhabited

/-- The layout of a topic. -/
def Topic.format (version : Int16) : Format Topic :=
  let form := Form.of version firstFlexible
  .record (fun (id, name, tags) => { id, name, tags }) (fun t => (t.id, t.name, t.tags))
    (fun _ => rfl) (fun _ => rfl) <|
  .pair (.since version 10 .uuid Uuid.zero) <|
  .pair (if 10 ≤ version then .nullableString form else .required (.string form) "") <|
  .tags form

/-- The layout of a request. -/
def Request.format (version : Int16) : Format Request :=
  let form := Form.of version firstFlexible
  .record
    (fun (topics, allowAutoTopicCreation, includeClusterAuthorizedOperations,
        includeTopicAuthorizedOperations, tags) =>
      { topics, allowAutoTopicCreation, includeClusterAuthorizedOperations,
        includeTopicAuthorizedOperations, tags })
    (fun r => (r.topics, r.allowAutoTopicCreation, r.includeClusterAuthorizedOperations,
      r.includeTopicAuthorizedOperations, r.tags))
    (fun _ => rfl) (fun _ => rfl) <|
  .pair (if version = 0 then .required (.array form (Topic.format version)) []
    else .nullableArray form (Topic.format version)) <|
  .pair (.since version 4 .bool true) <|
  .pair (.within version 8 10 .bool false) <|
  .pair (.since version 8 .bool false) <|
  .tags form

/-- The topics asked for by name. -/
def Request.topicNames (r : Request) : List String := (r.topics.getD []).filterMap (·.name)

/-- Whether the request, in that version, asks for every topic of the cluster. -/
def Request.coversAllTopics (r : Request) (version : Int16) : Bool :=
  match r.topics with
  | none => true
  | some topics => version = 0 && topics.isEmpty

end Metadata

end KafkaWire
