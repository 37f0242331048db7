import KafkaWire.Wire.Format

/-!
# Produce requests

Records to append, by topic and partition. The record batches stay opaque.

```
request   => transactional_id (from version 3) acks timeout_ms [topic_data]
topic     => name [partition_data]
partition => index records
```

Version 9 is the first flexible one.
-/

namespace KafkaWire

namespace Produce

/-- The first version with compact lengths and tag buffers. -/
def firstFlexible : Int16 := 9

/-- The records for one partition. -/
structure Partition where
  index : Int32 := 0
  records : Option Bytes := none
  tags : TagBuffer := {}
  deriving DecidableEq, Repr, Inhabited

/-- The partitions of one topic. -/
structure Topic where
  name : String := ""
  partitions : List Partition := []
  tags : TagBuffer := {}
  deriving DecidableEq, Repr, Inhabited

/-- A produce request of any version. -/
structure Request where
  /-- Null unless the producer is transactional. -/
  transactionalId : Option String := none
  /-- How many acknowledgments the leader waits for: none, its own, or `-1` for all. -/
  acks : Int16 := 0
  timeoutMs : Int32 := 0
  topics : List Topic := []
  tags : TagBuffer := {}
  deriving DecidableEq, Repr, Inhabited

/-- The layout of a partition. -/
def Partition.format (version : Int16) : Format Partition :=
  let form := Form.of version firstFlexible
  .record (fun (index, records, tags) => { index, records, tags })
    (fun p => (p.index, p.records, p.tags)) (fun _ => rfl) (fun _ => rfl) <|
  .pair .int32 <|
  .pair (.nullableBytes form) <|
  .tags form

/-- The layout of a topic. -/
def Topic.format (version : Int16) : Format Topic :=
  let form := Form.of version firstFlexible
  .record (fun (name, partitions, tags) => { name, partitions, tags })
    (fun t => (t.name, t.partitions, t.tags)) (fun _ => rfl) (fun _ => rfl) <|
  .pair (.string form) <|
  .pair (.array form (Partition.format version)) <|
  .tags form

/-- The layout of a request. -/
def Request.format (version : Int16) : Format Request :=
  let form := Form.of version firstFlexible
  .record
    (fun (transactionalId, acks, timeoutMs, topics, tags) =>
      { transactionalId, acks, timeoutMs, topics, tags })
    (fun r => (r.transactionalId, r.acks, r.timeoutMs, r.topics, r.tags))
    (fun _ => rfl) (fun _ => rfl) <|
  .pair (.since version 3 (.nullableString form) none) <|
  .pair .int16 <|
  .pair .int32 <|
  .pair (.array form (Topic.format version)) <|
  .tags form

/-- The topics that records are appended to. -/
def Request.topicNames (r : Request) : List String := r.topics.map (·.name)

end Produce

end KafkaWire
