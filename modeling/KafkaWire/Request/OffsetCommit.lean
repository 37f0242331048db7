import KafkaWire.Wire.Format

/-!
# Offset commit requests

Offsets that a consumer group has reached, by topic and partition.

```
request   => group_id generation_id_or_member_epoch member_id (from version 1)
             group_instance_id (7) retention_time_ms (2 to 4) [topics]
topic     => name [partitions]
partition => partition_index committed_offset committed_leader_epoch (6)
             commit_timestamp (1 only) committed_metadata
```

Version 8 is the first flexible one.
-/

namespace KafkaWire

namespace OffsetCommit

/-- The first version with compact lengths and tag buffers. -/
def firstFlexible : Int16 := 8

/-- The offset reached in one partition. -/
structure Partition where
  index : Int32 := 0
  committedOffset : Int64 := 0
  committedLeaderEpoch : Int32 := 0
  commitTimestamp : Int64 := 0
  committedMetadata : Option String := none
  tags : TagBuffer := {}
  deriving DecidableEq, Repr, Inhabited

/-- The partitions of one topic. -/
structure Topic where
  name : String := ""
  partitions : List Partition := []
  tags : TagBuffer := {}
  deriving DecidableEq, Repr, Inhabited

/-- An offset commit request of any version. -/
structure Request where
  groupId : String := ""
  generationIdOrMemberEpoch : Int32 := 0
  memberId : String := ""
  groupInstanceId : Option String := none
  retentionTimeMs : Int64 := 0
  topics : List Topic := []
  tags : TagBuffer := {}
  deriving DecidableEq, Repr, Inhabited

/-- The layout of a partition. -/
def Partition.format (version : Int16) : Format Partition :=
  let form := Form.of version firstFlexible
  .record
    (fun (index, committedOffset, committedLeaderEpoch, commitTimestamp, committedMetadata,
        tags) =>
      { index, committedOffset, committedLeaderEpoch, commitTimestamp, committedMetadata, tags })
    (fun p => (p.index, p.committedOffset, p.committedLeaderEpoch, p.commitTimestamp,
      p.committedMetadata, p.tags))
    (fun _ => rfl) (fun _ => rfl) <|
  .pair .int32 <|
  .pair .int64 <|
  .pair (.since version 6 .int32 (-1)) <|
  .pair (.within version 1 1 .int64 (-1)) <|
  .pair (.nullableString form) <|
  .tags form

/-- The layout of a topic. -/
def Topic.format (version : Int16) : Format Topic :=
  let form := Form.of version firstFlexible
  .record (fun (name, partitions, tags) => { name, partitions, tags })
    (fun t => (t.name, t.partitions, t.tags)) (fun _ => rfl) (fun _ => rfl) <|
  .pair (.string form) <|
  .pair (.array form (Partition.format version)) <|
  .tags form

/-- The layout of a request. -/
def Request.format (version : Int16) : Format Request :=
  let form := Form.of version firstFlexible
  .record
    (fun (groupId, generationIdOrMemberEpoch, memberId, groupInstanceId, retentionTimeMs, topics,
        tags) =>
      { groupId, generationIdOrMemberEpoch, memberId, groupInstanceId, retentionTimeMs, topics,
        tags })
    (fun r => (r.groupId, r.generationIdOrMemberEpoch, r.memberId, r.groupInstanceId,
      r.retentionTimeMs, r.topics, r.tags))
    (fun _ => rfl) (fun _ => rfl) <|
  .pair (.string form) <|
  .pair (.since version 1 .int32 (-1)) <|
  .pair (.since version 1 (.string form) "") <|
  .pair (.since version 7 (.nullableString form) none) <|
  .pair (.within version 2 4 .int64 (-1)) <|
  .pair (.array form (Topic.format version)) <|
  .tags form

/-- The topics that offsets are committed for. -/
def Request.topicNames (r : Request) : List String := r.topics.map (·.name)

/-- The group that commits. -/
def Request.groupNames (r : Request) : List String := [r.groupId]

end OffsetCommit

end KafkaWire
