import KafkaWire.Request.Names
import KafkaWire.Wire.Format

/-!
# Offset fetch requests

Committed offsets to return, by topic and partition: up to version 7 for one consumer group, from
version 8 on for several.

```
request => group_id (to version 7) [topics] (to 7, or null from 2) [groups] (from 8)
           require_stable (7)
group   => group_id [topics] (or null)
topic   => name [partition_indexes]
```

Version 6 is the first flexible one. A null list of topics asks for every topic that the group
has committed offsets for.
-/

namespace KafkaWire

namespace OffsetFetch

/-- The first version with compact lengths and tag buffers. -/
def firstFlexible : Int16 := 6

/-- The partitions of one topic. -/
structure Topic where
  name : String := ""
  partitionIndexes : List Int32 := []
  tags : TagBuffer := {}
  deriving DecidableEq, Repr, Inhabited

/-- The topics of one group. -/
structure Group where
  groupId : String := ""
  topics : Option (List Topic) := none
  tags : TagBuffer := {}
  deriving DecidableEq, Repr, Inhabited

/-- An offset fetch request of any version. -/
structure Request where
  groupId : Option String := none
  topics : Option (List Topic) := none
  groups : List Group := []
  requireStable : Bool := false
  tags : TagBuffer := {}
  deriving DecidableEq, Repr, Inhabited

/-- The layout of a topic. -/
def Topic.format (version : Int16) : Format Topic :=
  let form := Form.of version firstFlexible
  .record (fun (name, partitionIndexes, tags) => { name, partitionIndexes, tags })
    (fun t => (t.name, t.partitionIndexes, t.tags)) (fun _ => rfl) (fun _ => rfl) <|
  .pair (.string form) <|
  .pair (.array form .int32) <|
  .tags form

/-- The layout of a group. -/
def Group.format (version : Int16) : Format Group :=
  let form := Form.of version firstFlexible
  .record (fun (groupId, topics, tags) => { groupId, topics, tags })
    (fun g => (g.groupId, g.topics, g.tags)) (fun _ => rfl) (fun _ => rfl) <|
  .pair (.string form) <|
  .pair (.nullableArray form (Topic.format version)) <|
  .tags form

/-- The layout of a request. -/
def Request.format (version : Int16) : Format Request :=
  let form := Form.of version firstFlexible
  .record
    (fun (groupId, topics, groups, requireStable, tags) =>
      { groupId, topics, groups, requireStable, tags })
    (fun r => (r.groupId, r.topics, r.groups, r.requireStable, r.tags))
    (fun _ => rfl) (fun _ => rfl) <|
  .pair (.upTo version 7 (.required (.string form) "") none) <|
  .pair (.upTo version 7
    (if 2 ≤ version then .nullableArray form (Topic.format version)
      else .required (.array form (Topic.format version)) []) none) <|
  .pair (.since version 8 (.array form (Group.format version)) []) <|
  .pair (.since version 7 .bool false) <|
  .tags form

/-- The topics asked for, those of the groups included, each once. -/
def Request.topicNames (r : Request) : List String :=
  appendNew []
    ((r.topics.getD [] ++ r.groups.flatMap fun g => g.topics.getD []).map (·.name))

/-- The groups asked about. -/
def Request.groupNames (r : Request) : List String :=
  r.groupId.toList ++ r.groups.map (·.groupId)

end OffsetFetch

end KafkaWire
