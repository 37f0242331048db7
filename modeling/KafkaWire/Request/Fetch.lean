import KafkaWire.Request.Names
import KafkaWire.Wire.Format

/-!
# Fetch requests

Records to return, by topic and partition, and the partitions to drop from a fetch session.

```
request   => replica_id max_wait_ms min_bytes max_bytes (from version 3)
             isolation_level (4) session_id session_epoch (7) [topics]
             [forgotten_topics_data] (7) rack_id (11)
topic     => topic [partitions]
partition => partition current_leader_epoch (9) fetch_offset last_fetched_epoch (12)
             log_start_offset (5) partition_max_bytes
forgotten => topic [partitions]
```

Version 12 is the first flexible one and the last that names topics.
-/

namespace KafkaWire

namespace Fetch

/-- The first version with compact lengths and tag buffers. -/
def firstFlexible : Int16 := 12

/-- Where to read in one partition, and how much. -/
structure Partition where
  partition : Int32 := 0
  currentLeaderEpoch : Int32 := 0
  fetchOffset : Int64 := 0
  lastFetchedEpoch : Int32 := 0
  logStartOffset : Int64 := 0
  maxBytes : Int32 := 0
  tags : TagBuffer := {}
  deriving DecidableEq, Repr, Inhabited

/-- The partitions of one topic. -/
structure Topic where
  topic : String := ""
  partitions : List Partition := []
  tags : TagBuffer := {}
  deriving DecidableEq, Repr, Inhabited

/-- The partitions of one topic that leave the session. -/
structure Forgotten where
  topic : String := ""
  partitions : List Int32 := []
  tags : TagBuffer := {}
  deriving DecidableEq, Repr, Inhabited

/-- A fetch request of any version. -/
structure Request where
  /-- The broker that follows, or `-1` for a consumer. -/
  replicaId : Int32 := 0
  maxWaitMs : Int32 := 0
  minBytes : Int32 := 0
  maxBytes : Int32 := 0
  isolationLevel : Int8 := 0
  sessionId : Int32 := 0
  sessionEpoch : Int32 := 0
  topics : List Topic := []
  forgotten : List Forgotten := []
  rackId : String := ""
  tags : TagBuffer := {}
  deriving DecidableEq, Repr, Inhabited

/-- The layout of a partition. -/
def Partition.format (version : Int16) : Format Partition :=
  let form := Form.of version firstFlexible
  .record
    (fun (partition, currentLeaderEpoch, fetchOffset, lastFetchedEpoch, logStartOffset, maxBytes,
        tags) =>
      { partition, currentLeaderEpoch, fetchOffset, lastFetchedEpoch, logStartOffset, maxBytes,
        tags })
    (fun p => (p.partition, p.currentLeaderEpoch, p.fetchOffset, p.lastFetchedEpoch,
      p.logStartOffset, p.maxBytes, p.tags))
    (fun _ => rfl) (fun _ => rfl) <|
  .pair .int32 <|
  .pair (.since version 9 .int32 (-1)) <|
  .pair .int64 <|
  .pair (.since version 12 .int32 (-1)) <|
  .pair (.since version 5 .int64 (-1)) <|
  .pair .int32 <|
  .tags form

/-- The layout of a topic. -/
def Topic.format (version : Int16) : Format Topic :=
  let form := Form.of version firstFlexible
  .record (fun (topic, partitions, tags) => { topic, partitions, tags })
    (fun t => (t.topic, t.partitions, t.tags)) (fun _ => rfl) (fun _ => rfl) <|
  .pair (.string form) <|
  .pair (.array form (Partition.format version)) <|
  .tags form

/-- The layout of a topic that leaves the session. -/
def Forgotten.format (version : Int16) : Format Forgotten :=
  let form := Form.of version firstFlexible
  .record (fun (topic, partitions, tags) => { topic, partitions, tags })
    (fun t => (t.topic, t.partitions, t.tags)) (fun _ => rfl) (fun _ => rfl) <|
  .pair (.string form) <|
  .pair (.array form .int32) <|
  .tags form

/-- The layout of a request. -/
def Request.format (version : Int16) : Format Request :=
  let form := Form.of version firstFlexible
  .record
    (fun (replicaId, maxWaitMs, minBytes, maxBytes, isolationLevel, sessionId, sessionEpoch,
        topics, forgotten, rackId, tags) =>
      { replicaId, maxWaitMs, minBytes, maxBytes, isolationLevel, sessionId, sessionEpoch,
        topics, forgotten, rackId, tags })
    (fun r => (r.replicaId, r.maxWaitMs, r.minBytes, r.maxBytes, r.isolationLevel, r.sessionId,
      r.sessionEpoch, r.topics, r.forgotten, r.rackId, r.tags))
    (fun _ => rfl) (fun _ => rfl) <|
  .pair .int32 <|
  .pair .int32 <|
  .pair .int32 <|
  .pair (.since version 3 .int32 Int32.maxValue) <|
  .pair (.since version 4 .int8 0) <|
  .pair (.since version 7 .int32 0) <|
  .pair (.since version 7 .int32 (-1)) <|
  .pair (.array form (Topic.format version)) <|
  .pair (.since version 7 (.array form (Forgotten.format version)) []) <|
  .pair (.since version 11 (.string form) "") <|
  .tags form

/-- The topics read from, and after them those that only leave the session. -/
def Request.topicNames (r : Request) : List String :=
  appendNew (r.topics.map (·.topic)) (r.forgotten.map (·.topic))

end Fetch

end KafkaWire
