import KafkaWire.Wire.Format

/-!
# Delete topics requests

Topics to delete: up to version 5 by name, from version 6 on by name or by identifier.

```
request => [topics] (from version 6) [topic_names] (to 5) timeout_ms
topic   => name (or null) topic_id
```

Version 4 is the first flexible one.
-/

namespace KafkaWire

namespace DeleteTopics

/-- The first version with compact lengths and tag buffers. -/
def firstFlexible : Int16 := 4

/-- A topic, by name or by identifier. -/
structure Topic where
  /-- Null where the topic is meant by its identifier. -/
  name : Option String := none
  id : Uuid := Uuid.zero
  tags : TagBuffer := {}
  deriving DecidableEq, Repr, Inhabited

/-- A delete topics request of any version. -/
structure Request where
  topics : List Topic := []
  names : List String := []
  timeoutMs : Int32 := 0
  tags : TagBuffer := {}
  deriving DecidableEq, Repr, Inhabited

/-- The layout of a topic. -/
def Topic.format (version : Int16) : Format Topic :=
  let form := Form.of version firstFlexible
  .record (fun (name, id, tags) => { name, id, tags }) (fun t => (t.name, t.id, t.tags))
    (fun _ => rfl) (fun _ => rfl) <|
  .pair (.nullableString form) <|
  .pair .uuid <|
  .tags form

/-- The layout of a request. -/
def Request.format (version : Int16) : Format Request :=
  let form := Form.of version firstFlexible
  .record (fun (topics, names, timeoutMs, tags) => { topics, names, timeoutMs, tags })
    (fun r => (r.topics, r.names, r.timeoutMs, r.tags)) (fun _ => rfl) (fun _ => rfl) <|
  .pair (.since version 6 (.array form (Topic.format version)) []) <|
  .pair (.upTo version 5 (.array form (.string form)) []) <|
  .pair .int32 <|
  .tags form

/-- The topics to delete, as far as they are named. -/
def Request.topicNames (r : Request) : List String :=
  r.names ++ r.topics.filterMap (·.name)

end DeleteTopics

end KafkaWire
