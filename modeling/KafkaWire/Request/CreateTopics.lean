import KafkaWire.Wire.Format

/-!
# Create topics requests

Topics to create, with their partitions and settings.

```
request    => [topics] timeout_ms validate_only (from version 1)
topic      => name num_partitions replication_factor [assignments] [configs]
assignment => partition_index [broker_ids]
config     => name value
```

Version 5 is the first flexible one.
-/

namespace KafkaWire

namespace CreateTopics

/-- The first version with compact lengths and tag buffers. -/
def firstFlexible : Int16 := 5

/-- The brokers that one partition is placed on. -/
structure Assignment where
  partitionIndex : Int32 := 0
  brokerIds : List Int32 := []
  tags : TagBuffer := {}
  deriving DecidableEq, Repr, Inhabited

/-- A setting of a topic. -/
structure Config where
  name : String := ""
  value : Option String := none
  tags : TagBuffer := {}
  deriving DecidableEq, Repr, Inhabited

/-- A topic to create. -/
structure Topic where
  name : String := ""
  /-- The number of partitions, or `-1` where assignments or the brokers decide. -/
  numPartitions : Int32 := 0
  /-- The number of replicas, or `-1` where assignments or the brokers decide. -/
  replicationFactor : Int16 := 0
  assignments : List Assignment := []
  configs : List Config := []
  tags : TagBuffer := {}
  deriving DecidableEq, Repr, Inhabited

/-- A create topics request of any version. -/
structure Request where
  topics : List Topic := []
  timeoutMs : Int32 := 0
  validateOnly : Bool := false
  tags : TagBuffer := {}
  deriving DecidableEq, Repr, Inhabited

/-- The layout of an assignment. -/
def Assignment.format (version : Int16) : Format Assignment :=
  let form := Form.of version firstFlexible
  .record (fun (partitionIndex, brokerIds, tags) => { partitionIndex, brokerIds, tags })
    (fun a => (a.partitionIndex, a.brokerIds, a.tags)) (fun _ => rfl) (fun _ => rfl) <|
  .pair .int32 <|
  .pair (.array form .int32) <|
  .tags form

/-- The layout of a setting. -/
def Config.format (version : Int16) : Format Config :=
  let form := Form.of version firstFlexible
  .record (fun (name, value, tags) => { name, value, tags })
    (fun c => (c.name, c.value, c.tags)) (fun _ => rfl) (fun _ => rfl) <|
  .pair (.string form) <|
  .pair (.nullableString form) <|
  .tags form

/-- The layout of a topic. -/
def Topic.format (version : Int16) : Format Topic :=
  let form := Form.of version firstFlexible
  .record
    (fun (name, numPartitions, replicationFactor, assignments, configs, tags) =>
      { name, numPartitions, replicationFactor, assignments, configs, tags })
    (fun t => (t.name, t.numPartitions, t.replicationFactor, t.assignments, t.configs, t.tags))
    (fun _ => rfl) (fun _ => rfl) <|
  .pair (.string form) <|
  .pair .int32 <|
  .pair .int16 <|
  .pair (.array form (Assignment.format version)) <|
  .pair (.array form (Config.format version)) <|
  .tags form

/-- The layout of a request. -/
def Request.format (version : Int16) : Format Request :=
  let form := Form.of version firstFlexible
  .record
    (fun (topics, timeoutMs, validateOnly, tags) => { topics, timeoutMs, validateOnly, tags })
    (fun r => (r.topics, r.timeoutMs, r.validateOnly, r.tags))
    (fun _ => rfl) (fun _ => rfl) <|
  .pair (.array form (Topic.format version)) <|
  .pair .int32 <|
  .pair (.since version 1 .bool false) <|
  .tags form

/-- The topics to create. -/
def Request.topicNames (r : Request) : List String := r.topics.map (·.name)

end CreateTopics

end KafkaWire
