import KafkaWire.Wire.Format

/-!
# Create partitions requests

Topics to be given more partitions, and where to place these.

```
request    => [topics] timeout_ms validate_only
topic      => name count [assignments] (or null)
assignment => [broker_ids]
```

Version 2 is the first flexible one.
-/

namespace KafkaWire

namespace CreatePartitions

/-- The first version with compact lengths and tag buffers. -/
def firstFlexible : Int16 := 2

/-- The brokers that one partition is placed on. -/
structure Assignment where
  brokerIds : List Int32 := []
  tags : TagBuffer := {}
  deriving DecidableEq, Repr, Inhabited

/-- A topic to be given more partitions. -/
structure Topic where
  name : String := ""
  /-- The number of partitions afterwards. -/
  count : Int32 := 0
  /-- The places of the new partitions, or null where the brokers decide. -/
  assignments : Option (List Assignment) := none
  tags : TagBuffer := {}
  deriving DecidableEq, Repr, Inhabited

/-- A create partitions request of any version. -/
structure Request where
  topics : List Topic := []
  timeoutMs : Int32 := 0
  validateOnly : Bool := false
  tags : TagBuffer := {}
  deriving DecidableEq, Repr, Inhabited

/-- The layout of an assignment. -/
def Assignment.format (version : Int16) : Format Assignment :=
  let form := Form.of version firstFlexible
  .record (fun (brokerIds, tags) => { brokerIds, tags }) (fun a => (a.brokerIds, a.tags))
    (fun _ => rfl) (fun _ => rfl) <|
  .pair (.array form .int32) <|
  .tags form

/-- The layout of a topic. -/
def Topic.format (version : Int16) : Format Topic :=
  let form := Form.of version firstFlexible
  .record (fun (name, count, assignments, tags) => { name, count, assignments, tags })
    (fun t => (t.name, t.count, t.assignments, t.tags)) (fun _ => rfl) (fun _ => rfl) <|
  .pair (.string form) <|
  .pair .int32 <|
  .pair (.nullableArray form (Assignment.format version)) <|
  .tags form

/-- The layout of a request. -/
def Request.format (version : Int16) : Format Request :=
  let form := Form.of version firstFlexible
  .record
    (fun (topics, timeoutMs, validateOnly, tags) => { topics, timeoutMs, validateOnly, tags })
    (fun r => (r.topics, r.timeoutMs, r.validateOnly, r.tags))
    (fun _ => rfl) (fun _ => rfl) <|
  .pair (.array form (Topic.format version)) <|
  .pair .int32 <|
  .pair .bool <|
  .tags form

/-- The topics that grow. -/
def Request.topicNames (r : Request) : List String := r.topics.map (·.name)

end CreatePartitions

end KafkaWire
