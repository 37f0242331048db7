import KafkaWire.Wire.Format

/-!
# List offsets requests

Offsets to look up by timestamp, by topic and partition.

```
request   => replica_id isolation_level (from version 2) [topics]
topic     => name [partitions]
partition => partition_index current_leader_epoch (4) timestamp max_num_offsets (0 only)
```

Version 6 is the first flexible one.
-/

namespace KafkaWire

namespace ListOffsets

/-- The first version with compact lengths and tag buffers. -/
def firstFlexible : Int16 := 6

/-- What to look up in one partition. -/
structure Partition where
  index : Int32 := 0
  currentLeaderEpoch : Int32 := 0
  timestamp : Int64 := 0
  maxNumOffsets : Int32 := 0
  tags : TagBuffer := {}
  deriving DecidableEq, Repr, Inhabited

/-- The partitions of one topic. -/
structure Topic where
  name : String := ""
  partitions : List Partition := []
  tags : TagBuffer := {}
  deriving DecidableEq, Repr, Inhabited

/-- A list offsets request of any version. -/
structure Request where
  /-- The broker that asks, or `-1` for a consumer. -/
  replicaId : Int32 := 0
  isolationLevel : Int8 := 0
  topics : List Topic := []
  tags : TagBuffer := {}
  deriving DecidableEq, Repr, Inhabited

/-- The layout of a partition. -/
def Partition.format (version : Int16) : Format Partition :=
  let form := Form.of version firstFlexible
  .record
    (fun (index, currentLeaderEpoch, timestamp, maxNumOffsets, tags) =>
      { index, currentLeaderEpoch, timestamp, maxNumOffsets, tags })
    (fun p => (p.index, p.currentLeaderEpoch, p.timestamp, p.maxNumOffsets, p.tags))
    (fun _ => rfl) (fun _ => rfl) <|
  .pair .int32 <|
  .pair (.since version 4 .int32 (-1)) <|
  .pair .int64 <|
  .pair (.within version 0 0 .int32 1) <|
  .tags form

/-- The layout of a topic. -/
def Topic.format (version : Int16) : Format Topic :=
  let form := Form.of version firstFlexible
  .record (fun (name, partitions, tags) => { name, partitions, tags })
    (fun t => (t.name, t.partitions, t.tags)) (fun _ => rfl) (fun _ => rfl) <|
  .pair (.string form) <|
  .pair (.array form (Partition.format version)) <|
  .tags form

/-- The layout of a request. -/
def Request.format (version : Int16) : Format Request :=
  let form := Form.of version firstFlexible
  .record
    (fun (replicaId, isolationLevel, topics, tags) => { replicaId, isolationLevel, topics, tags })
    (fun r => (r.replicaId, r.isolationLevel, r.topics, r.tags))
    (fun _ => rfl) (fun _ => rfl) <|
  .pair .int32 <|
  .pair (.since version 2 .int8 0) <|
  .pair (.array form (Topic.format version)) <|
  .tags form

/-- The topics looked up. -/
def Request.topicNames (r : Request) : List String := r.topics.map (·.name)

end ListOffsets

end KafkaWire
