import KafkaWire.Proofs.Wire.Format
import KafkaWire.Request.Api

/-!
# Normal forms of requests

A request in memory has the fields of all versions. Written in one version and read back, it keeps
the fields which that version has; every other field takes a fixed value, and a null becomes an
empty text or list where the version cannot write null. This is spelled out here layout by layout,
from the innermost struct outwards, and is what the formats amount to.

## Main definitions

* `Produce.Request.normal`, `Fetch.Request.normal`, … — the nine layouts in normal form
* `Api.normal` — the same by request type

## Main results

* `Api.normal_format` — the normal forms are those of the formats
-/

namespace KafkaWire

/-- Tags survive in the flexible versions only. -/
def TagBuffer.normal (version firstFlexible : Int16) (tags : TagBuffer) : TagBuffer :=
  if firstFlexible ≤ version then tags else {}

theorem Format.normal_tags (version firstFlexible : Int16) (tags : TagBuffer) :
    (Format.tags (.of version firstFlexible)).normal tags = tags.normal version firstFlexible := by
  by_cases h : firstFlexible ≤ version <;>
    simp [Format.tags, Format.normal, Format.tagBuffer, TagBuffer.normal, Form.of, h]

/-- A part of one version only. -/
theorem Format.within_self {α : Type} (version only : Int16) (part : Format α) (absent : α) :
    Format.within version only only part absent = .onlyIf (version = only) part absent := by
  simp [Format.within, ← Bool.decide_and, Int16.le_antisymm_iff, and_comm]

/-! ### Produce -/

namespace Produce

/-- Of a partition only the tags depend on the version. -/
def Partition.normal (version : Int16) (p : Partition) : Partition :=
  { p with tags := p.tags.normal version firstFlexible }

/-- A topic, with its partitions in normal form. -/
def Topic.normal (version : Int16) (t : Topic) : Topic :=
  { t with
    partitions := t.partitions.map (Partition.normal version)
    tags := t.tags.normal version firstFlexible }

/-- Transactions came with version 3. -/
def Request.normal (version : Int16) (r : Request) : Request :=
  { r with
    transactionalId := if 3 ≤ version then r.transactionalId else none
    topics := r.topics.map (Topic.normal version)
    tags := r.tags.normal version firstFlexible }

theorem Partition.normal_format (version : Int16) :
    (Partition.format version).normal = Partition.normal version := by
  funext p
  simp [Partition.format, Partition.normal, Format.normal, Format.normal_tags, Format.int32,
    Format.nullableBytes]

theorem Topic.normal_format (version : Int16) :
    (Topic.format version).normal = Topic.normal version := by
  funext t
  simp [Topic.format, Topic.normal, Format.normal, Format.normal_tags, Format.string,
    Partition.normal_format]

theorem Request.normal_format (version : Int16) :
    (Request.format version).normal = Request.normal version := by
  funext r
  simp [Request.format, Request.normal, Format.normal, Format.normal_tags, Format.int16,
    Format.int32, Format.nullableString, Format.since, Topic.normal_format]

end Produce

/-! ### Fetch -/

namespace Fetch

/-- Log starts came with version 5, and leader epochs with versions 9 and 12. -/
def Partition.normal (version : Int16) (p : Partition) : Partition :=
  { p with
    currentLeaderEpoch := if 9 ≤ version then p.currentLeaderEpoch else -1
    lastFetchedEpoch := if 12 ≤ version then p.lastFetchedEpoch else -1
    logStartOffset := if 5 ≤ version then p.logStartOffset else -1
    tags := p.tags.normal version firstFlexible }

/-- A topic, with its partitions in normal form. -/
def Topic.normal (version : Int16) (t : Topic) : Topic :=
  { t with
    partitions := t.partitions.map (Partition.normal version)
    tags := t.tags.normal version firstFlexible }

/-- Of a forgotten topic only the tags depend on the version. -/
def Forgotten.normal (version : Int16) (t : Forgotten) : Forgotten :=
  { t with tags := t.tags.normal version firstFlexible }

/-- Response sizes were unlimited before version 3, and there were no sessions before version
7, hence nothing to forget either. -/
def Request.normal (version : Int16) (r : Request) : Request :=
  { r with
    maxBytes := if 3 ≤ version then r.maxBytes else Int32.maxValue
    isolationLevel := if 4 ≤ version then r.isolationLevel else 0
    sessionId := if 7 ≤ version then r.sessionId else 0
    sessionEpoch := if 7 ≤ version then r.sessionEpoch else -1
    topics := r.topics.map (Topic.normal version)
    forgotten := if 7 ≤ version then r.forgotten.map (Forgotten.normal version) else []
    rackId := if 11 ≤ version then r.rackId else ""
    tags := r.tags.normal version firstFlexible }

theorem Partition.normal_format (version : Int16) :
    (Partition.format version).normal = Partition.normal version := by
  funext p
  simp [Partition.format, Partition.normal, Format.normal, Format.normal_tags, Format.int32,
    Format.int64, Format.since]

theorem Topic.normal_format (version : Int16) :
    (Topic.format version).normal = Topic.normal version := by
  funext t
  simp [Topic.format, Topic.normal, Format.normal, Format.normal_tags, Format.string,
    Partition.normal_format]

theorem Forgotten.normal_format (version : Int16) :
    (Forgotten.format version).normal = Forgotten.normal version := by
  funext t
  simp [Forgotten.format, Forgotten.normal, Format.normal, Format.normal_tags, Format.string,
    Format.int32]

theorem Request.normal_format (version : Int16) :
    (Request.format version).normal = Request.normal version := by
  funext r
  simp [Request.format, Request.normal, Format.normal, Format.normal_tags, Format.int8,
    Format.int32, Format.string, Format.since, Topic.normal_format, Forgotten.normal_format]

end Fetch

/-! ### ListOffsets -/

namespace ListOffsets

/-- Only version 0 could ask for several offsets. -/
def Partition.normal (version : Int16) (p : Partition) : Partition :=
  { p with
    currentLeaderEpoch := if 4 ≤ version then p.currentLeaderEpoch else -1
    maxNumOffsets := if version = 0 then p.maxNumOffsets else 1
    tags := p.tags.normal version firstFlexible }

/-- A topic, with its partitions in normal form. -/
def Topic.normal (version : Int16) (t : Topic) : Topic :=
  { t with
    partitions := t.partitions.map (Partition.normal version)
    tags := t.tags.normal version firstFlexible }

/-- Isolation levels came with version 2. -/
def Request.normal (version : Int16) (r : Request) : Request :=
  { r with
    isolationLevel := if 2 ≤ version then r.isolationLevel else 0
    topics := r.topics.map (Topic.normal version)
    tags := r.tags.normal version firstFlexible }

theorem Partition.normal_format (version : Int16) :
    (Partition.format version).normal = Partition.normal version := by
  funext p
  simp [Partition.format, Partition.normal, Format.normal, Format.normal_tags, Format.int32,
    Format.int64, Format.since, Format.within_self]

theorem Topic.normal_format (version : Int16) :
    (Topic.format version).normal = Topic.normal version := by
  funext t
  simp [Topic.format, Topic.normal, Format.normal, Format.normal_tags, Format.string,
    Partition.normal_format]

theorem Request.normal_format (version : Int16) :
    (Request.format version).normal = Request.normal version := by
  funext r
  simp [Request.format, Request.normal, Format.normal, Format.normal_tags, Format.int8,
    Format.int32, Format.since, Topic.normal_format]

end ListOffsets

/-! ### Metadata -/

namespace Metadata

/-- Topics have identifiers from version 10 on, and only since then may they be nameless. -/
def Topic.normal (version : Int16) (t : Topic) : Topic :=
  { t with
    id := if 10 ≤ version then t.id else Uuid.zero
    name := if 10 ≤ version then t.name else some (t.name.getD "")
    tags := t.tags.normal version firstFlexible }

/-- Version 0 has no null list of topics: it writes an empty one. -/
def Request.normal (version : Int16) (r : Request) : Request :=
  { r with
    topics :=
      if version = 0 then some ((r.topics.getD []).map (Topic.normal version))
      else r.topics.map (List.map (Topic.normal version))
    allowAutoTopicCreation := if 4 ≤ version then r.allowAutoTopicCreation else true
    includeClusterAuthorizedOperations :=
      if 8 ≤ version ∧ version ≤ 10 then r.includeClusterAuthorizedOperations else false
    includeTopicAuthorizedOperations :=
      if 8 ≤ version then r.includeTopicAuthorizedOperations else false
    tags := r.tags.normal version firstFlexible }

theorem Topic.normal_format (version : Int16) :
    (Topic.format version).normal = Topic.normal version := by
  funext t
  by_cases h : 10 ≤ version <;>
    simp [Topic.format, Topic.normal, Format.normal, Format.normal_tags, Format.uuid,
      Format.string, Format.nullableString, Format.since, h]

theorem Request.normal_format (version : Int16) :
    (Request.format version).normal = Request.normal version := by
  funext r
  by_cases h : version = 0 <;>
    simp [Request.format, Request.normal, Format.normal, Format.normal_tags, Format.bool,
      Format.since, Format.within, Topic.normal_format, h]

end Metadata

/-! ### OffsetCommit -/

namespace OffsetCommit

/-- Timestamps of commits were sent in version 1 alone. -/
def Partition.normal (version : Int16) (p : Partition) : Partition :=
  { p with
    committedLeaderEpoch := if 6 ≤ version then p.committedLeaderEpoch else -1
    commitTimestamp := if version = 1 then p.commitTimestamp else -1
    tags := p.tags.normal version firstFlexible }

/-- A topic, with its partitions in normal form. -/
def Topic.normal (version : Int16) (t : Topic) : Topic :=
  { t with
    partitions := t.partitions.map (Partition.normal version)
    tags := t.tags.normal version firstFlexible }

/-- Group membership came with version 1 and static members with version 7; retention times came
with version 2 and went with version 5. -/
def Request.normal (version : Int16) (r : Request) : Request :=
  { r with
    generationIdOrMemberEpoch := if 1 ≤ version then r.generationIdOrMemberEpoch else -1
    memberId := if 1 ≤ version then r.memberId else ""
    groupInstanceId := if 7 ≤ version then r.groupInstanceId else none
    retentionTimeMs := if 2 ≤ version ∧ version ≤ 4 then r.retentionTimeMs else -1
    topics := r.topics.map (Topic.normal version)
    tags := r.tags.normal version firstFlexible }

theorem Partition.normal_format (version : Int16) :
    (Partition.format version).normal = Partition.normal version := by
  funext p
  simp [Partition.format, Partition.normal, Format.normal, Format.normal_tags, Format.int32,
    Format.int64, Format.nullableString, Format.since, Format.within_self]

theorem Topic.normal_format (version : Int16) :
    (Topic.format version).normal = Topic.normal version := by
  funext t
  simp [Topic.format, Topic.normal, Format.normal, Format.normal_tags, Format.string,
    Partition.normal_format]

theorem Request.normal_format (version : Int16) :
    (Request.format version).normal = Request.normal version := by
  funext r
  simp [Request.format, Request.normal, Format.normal, Format.normal_tags, Format.int32,
    Format.int64, Format.string, Format.nullableString, Format.since, Format.within,
    Topic.normal_format]

end OffsetCommit

/-! ### OffsetFetch -/

namespace OffsetFetch

/-- Of a topic only the tags depend on the version. -/
def Topic.normal (version : Int16) (t : Topic) : Topic :=
  { t with tags := t.tags.normal version firstFlexible }

/-- A group, with its topics in normal form. A null list, which asks for all, stays null. -/
def Group.normal (version : Int16) (g : Group) : Group :=
  { g with
    topics := g.topics.map (List.map (Topic.normal version))
    tags := g.tags.normal version firstFlexible }

/-- The single group gave way to a list of groups in version 8. While it was there it always had
a name, and until version 2 a list of topics as well, so null turns into an empty one. -/
def Request.normal (version : Int16) (r : Request) : Request :=
  { r with
    groupId := if version ≤ 7 then some (r.groupId.getD "") else none
    topics :=
      if version ≤ 7 then
        if 2 ≤ version then r.topics.map (List.map (Topic.normal version))
        else some ((r.topics.getD []).map (Topic.normal version))
      else none
    groups := if 8 ≤ version then r.groups.map (Group.normal version) else []
    requireStable := if 7 ≤ version then r.requireStable else false
    tags := r.tags.normal version firstFlexible }

theorem Topic.normal_format (version : Int16) :
    (Topic.format version).normal = Topic.normal version := by
  funext t
  simp [Topic.format, Topic.normal, Format.normal, Format.normal_tags, Format.string,
    Format.int32]

theorem Group.normal_format (version : Int16) :
    (Group.format version).normal = Group.normal version := by
  funext g
  simp [Group.format, Group.normal, Format.normal, Format.normal_tags, Format.string,
    Topic.normal_format]

theorem Request.normal_format (version : Int16) :
    (Request.format version).normal = Request.normal version := by
  funext r
  by_cases h : 2 ≤ version <;>
    simp [Request.format, Request.normal, Format.normal, Format.normal_tags, Format.bool,
      Format.string, Format.since, Format.upTo, Topic.normal_format, Group.normal_format, h]

end OffsetFetch

/-! ### CreateTopics -/

namespace CreateTopics

/-- Of an assignment only the tags depend on the version. -/
def Assignment.normal (version : Int16) (a : Assignment) : Assignment :=
  { a with tags := a.tags.normal version firstFlexible }

/-- Of a setting of a topic only the tags depend on the version. -/
def Config.normal (version : Int16) (c : Config) : Config :=
  { c with tags := c.tags.normal version firstFlexible }

/-- A topic, with its assignments and its settings in normal form. -/
def Topic.normal (version : Int16) (t : Topic) : Topic :=
  { t with
    assignments := t.assignments.map (Assignment.normal version)
    configs := t.configs.map (Config.normal version)
    tags := t.tags.normal version firstFlexible }

/-- Requests can be merely validated from version 1 on. -/
def Request.normal (version : Int16) (r : Request) : Request :=
  { r with
    topics := r.topics.map (Topic.normal version)
    validateOnly := if 1 ≤ version then r.validateOnly else false
    tags := r.tags.normal version firstFlexible }

theorem Assignment.normal_format (version : Int16) :
    (Assignment.format version).normal = Assignment.normal version := by
  funext a
  simp [Assignment.format, Assignment.normal, Format.normal, Format.normal_tags, Format.int32]

theorem Config.normal_format (version : Int16) :
    (Config.format version).normal = Config.normal version := by
  funext c
  simp [Config.format, Config.normal, Format.normal, Format.normal_tags, Format.string,
    Format.nullableString]

theorem Topic.normal_format (version : Int16) :
    (Topic.format version).normal = Topic.normal version := by
  funext t
  simp [Topic.format, Topic.normal, Format.normal, Format.normal_tags, Format.string,
    Format.int16, Format.int32, Assignment.normal_format, Config.normal_format]

theorem Request.normal_format (version : Int16) :
    (Request.format version).normal = Request.normal version := by
  funext r
  simp [Request.format, Request.normal, Format.normal, Format.normal_tags, Format.bool,
    Format.int32, Format.since, Topic.normal_format]

end CreateTopics

/-! ### DeleteTopics -/

namespace DeleteTopics

/-- Of a topic only the tags depend on the version. -/
def Topic.normal (version : Int16) (t : Topic) : Topic :=
  { t with tags := t.tags.normal version firstFlexible }

/-- A list of names, or from version 6 on a list of topics. -/
def Request.normal (version : Int16) (r : Request) : Request :=
  { r with
    topics := if 6 ≤ version then r.topics.map (Topic.normal version) else []
    names := if version ≤ 5 then r.names else []
    tags := r.tags.normal version firstFlexible }

theorem Topic.normal_format (version : Int16) :
    (Topic.format version).normal = Topic.normal version := by
  funext t
  simp [Topic.format, Topic.normal, Format.normal, Format.normal_tags, Format.nullableString,
    Format.uuid]

theorem Request.normal_format (version : Int16) :
    (Request.format version).normal = Request.normal version := by
  funext r
  simp [Request.format, Request.normal, Format.normal, Format.normal_tags, Format.int32,
    Format.string, Format.since, Format.upTo, Topic.normal_format]

end DeleteTopics

/-! ### CreatePartitions -/

namespace CreatePartitions

/-- Of an assignment only the tags depend on the version. -/
def Assignment.normal (version : Int16) (a : Assignment) : Assignment :=
  { a with tags := a.tags.normal version firstFlexible }

/-- A topic, with its assignments in normal form. A null list of them stays null. -/
def Topic.normal (version : Int16) (t : Topic) : Topic :=
  { t with
    assignments := t.assignments.map (List.map (Assignment.normal version))
    tags := t.tags.normal version firstFlexible }

/-- All versions have the same fields, tags apart. -/
def Request.normal (version : Int16) (r : Request) : Request :=
  { r with
    topics := r.topics.map (Topic.normal version)
    tags := r.tags.normal version firstFlexible }

theorem Assignment.normal_format (version : Int16) :
    (Assignment.format version).normal = Assignment.normal version := by
  funext a
  simp [Assignment.format, Assignment.normal, Format.normal, Format.normal_tags, Format.int32]

theorem Topic.normal_format (version : Int16) :
    (Topic.format version).normal = Topic.normal version := by
  funext t
  simp [Topic.format, Topic.normal, Format.normal, Format.normal_tags, Format.string,
    Format.int32, Assignment.normal_format]

theorem Request.normal_format (version : Int16) :
    (Request.format version).normal = Request.normal version := by
  funext r
  simp [Request.format, Request.normal, Format.normal, Format.normal_tags, Format.bool,
    Format.int32, Topic.normal_format]

end CreatePartitions

/-! ### All request types -/

/-- A request as a version reads it back. -/
def Api.normal : (api : Api) → (version : Int16) → api.Layout → api.Layout
  | .produce => Produce.Request.normal
  | .fetch => Fetch.Request.normal
  | .listOffsets => ListOffsets.Request.normal
  | .metadata => Metadata.Request.normal
  | .offsetCommit => OffsetCommit.Request.normal
  | .offsetFetch => OffsetFetch.Request.normal
  | .createTopics => CreateTopics.Request.normal
  | .deleteTopics => DeleteTopics.Request.normal
  | .createPartitions => CreatePartitions.Request.normal

/-- **The formats have these normal forms**, in every version. -/
theorem Api.normal_format (api : Api) (version : Int16) :
    (api.format version).normal = api.normal version := by
  cases api with
  | produce => exact Produce.Request.normal_format version
  | fetch => exact Fetch.Request.normal_format version
  | listOffsets => exact ListOffsets.Request.normal_format version
  | metadata => exact Metadata.Request.normal_format version
  | offsetCommit => exact OffsetCommit.Request.normal_format version
  | offsetFetch => exact OffsetFetch.Request.normal_format version
  | createTopics => exact CreateTopics.Request.normal_format version
  | deleteTopics => exact DeleteTopics.Request.normal_format version
  | createPartitions => exact CreatePartitions.Request.normal_format version

end KafkaWire
