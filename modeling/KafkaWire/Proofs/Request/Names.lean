import Mathlib.Data.List.Basic
import KafkaWire.Proofs.Request.RoundTrip

/-!
# Names that a request puts on the wire

A request is let through by what the decoded body names, but acted upon by what is in its bytes.
So of the two sides below neither may be larger. On one side stand the names in those fields
that a version writes, collected from the value before it was written. On the other stand the
names that the body reports once its bytes were decoded. A field that the version lacks is not on
the wire, whatever it holds in memory, and a null that the version cannot write is an empty text
there.

Where names come from two places, or repeat, a body lists each of them once; this is what
`appendNew` achieves, and the library's `List.eraseDups` describes.

## Main definitions

* `Api.namesOnWire`, `Api.groupsOnWire` — the names that a version writes, in order
* `Api.listing` — the same as a body lists them, with repetitions dropped
* `Api.AsksForAll` — requests that mean every topic without naming any

## Main results

* `appendNew_eq` — how repetitions are dropped
* `Api.topics_normal`, `Api.groups_normal`, `Api.coversAllTopics_normal` — what is reported of a
  request that was read back
* `Body.exists_decode_encode_names` — nothing on the wire goes unreported, and nothing else is
-/

namespace KafkaWire

/-! ### Lists without repetition -/

/-- New names follow the known ones, each at its first occurrence. -/
theorem appendNew_eq (known names : List String) :
    appendNew known names = known ++ (names.filter (· ∉ known)).eraseDups := by
  induction names generalizing known with
  | nil => simp [appendNew]
  | cons name names ih =>
    rw [appendNew]
    by_cases hknown : name ∈ known
    · rw [if_pos hknown, ih, List.filter_cons_of_neg (by simpa using hknown)]
    · rw [if_neg hknown, ih, List.filter_cons_of_pos (by simpa using hknown),
        List.eraseDups_cons, List.filter_filter, List.append_assoc, List.singleton_append]
      -- what is neither known nor the new name
      have hrest : names.filter (· ∉ known ++ [name]) =
          names.filter fun other => (!other == name) && decide (other ∉ known) := by
        refine List.filter_congr fun other _ => ?_
        simp [not_or, and_comm, beq_eq_decide]
      rw [hrest]

theorem appendNew_nil (names : List String) : appendNew [] names = names.eraseDups := by
  rw [appendNew_eq, List.nil_append, List.filter_eq_self.mpr (by simp)]

/-- A field is there from some version on, or else up to the version before. -/
theorem since_iff_not_upTo {last next version : Int16} (h : next.toInt = last.toInt + 1) :
    next ≤ version ↔ ¬ version ≤ last := by
  rw [Int16.le_iff_toInt_le, Int16.le_iff_toInt_le, h]
  omega

/-! ### Fetch -/

namespace Fetch

/-- The topics that leave the session. Sessions came with version 7. -/
def Request.forgottenOnWire (version : Int16) (r : Request) : List String :=
  if 7 ≤ version then r.forgotten.map (·.topic) else []

/-- The topics read from in their order, and then each forgotten one, unless it is there. -/
def Request.listing (version : Int16) (r : Request) : List String :=
  let names := r.topics.map (·.topic)
  names ++ ((r.forgottenOnWire version).filter (· ∉ names)).eraseDups

theorem Request.topicNames_normal (version : Int16) (r : Request) :
    (r.normal version).topicNames = r.listing version := by
  have htopics : (r.normal version).topics.map (·.topic) = r.topics.map (·.topic) := by
    simp [Request.normal, Topic.normal]
  have hforgotten : (r.normal version).forgotten.map (·.topic) = r.forgottenOnWire version := by
    unfold Request.forgottenOnWire
    split <;> simp [Request.normal, Forgotten.normal, *]
  rw [topicNames, htopics, hforgotten, appendNew_eq]
  rfl

end Fetch

/-! ### OffsetFetch -/

namespace OffsetFetch

/-- The topics of the single group, or from version 8 on those of all groups. -/
def Request.topicsOnWire (version : Int16) (r : Request) : List Topic :=
  if version ≤ 7 then r.topics.getD [] else r.groups.flatMap fun g => g.topics.getD []

/-- The single group, which cannot be null there, or from version 8 on all groups. -/
def Request.groupsOnWire (version : Int16) (r : Request) : List String :=
  if version ≤ 7 then [r.groupId.getD ""] else r.groups.map (·.groupId)

theorem since_eight {version : Int16} : 8 ≤ version ↔ ¬ version ≤ 7 := since_iff_not_upTo rfl

theorem Request.topicNames_normal (version : Int16) (r : Request) :
    (r.normal version).topicNames = ((r.topicsOnWire version).map (·.name)).eraseDups := by
  have hnames (topics : List Topic) :
      (topics.map (Topic.normal version)).map (·.name) = topics.map (·.name) := by
    simp [Topic.normal]
  rw [topicNames, appendNew_nil]
  congr 1
  by_cases hversion : version ≤ 7
  · have hgroups : (r.normal version).groups = [] := by
      simp [Request.normal, since_eight, hversion]
    have htopics : (r.normal version).topics.getD [] =
        (r.topics.getD []).map (Topic.normal version) := by
      by_cases hnull : 2 ≤ version <;>
        cases htopics : r.topics <;> simp [Request.normal, hversion, hnull, htopics]
    rw [hgroups, htopics, topicsOnWire, if_pos hversion, List.flatMap_nil, List.append_nil, hnames]
  · have hgroups : (r.normal version).groups = r.groups.map (Group.normal version) := by
      simp [Request.normal, since_eight, hversion]
    have htopics : (r.normal version).topics = none := by
      simp [Request.normal, hversion]
    rw [hgroups, htopics, topicsOnWire, if_neg hversion, Option.getD_none, List.nil_append,
      List.flatMap_map, List.map_flatMap, List.map_flatMap]
    refine List.flatMap_congr fun g _ => ?_
    cases htopics : g.topics with
    | none => simp [Group.normal, htopics]
    | some topics => simpa [Group.normal, htopics] using hnames topics

theorem Request.groupNames_normal (version : Int16) (r : Request) :
    (r.normal version).groupNames = r.groupsOnWire version := by
  by_cases hversion : version ≤ 7
  · simp [groupNames, groupsOnWire, Request.normal, since_eight, hversion]
  · simp [groupNames, groupsOnWire, Request.normal, since_eight, hversion, Group.normal]

end OffsetFetch

/-! ### DeleteTopics -/

namespace DeleteTopics

/-- The list of names, or from version 6 on the names of those topics that have one. -/
def Request.namesOnWire (version : Int16) (r : Request) : List String :=
  if version ≤ 5 then r.names else r.topics.filterMap (·.name)

theorem since_six {version : Int16} : 6 ≤ version ↔ ¬ version ≤ 5 := since_iff_not_upTo rfl

theorem Request.topicNames_normal (version : Int16) (r : Request) :
    (r.normal version).topicNames = r.namesOnWire version := by
  by_cases hversion : version ≤ 5
  · simp [topicNames, namesOnWire, Request.normal, since_six, hversion]
  · simp [topicNames, namesOnWire, Request.normal, since_six, hversion, List.filterMap_map,
      Function.comp_def, Topic.normal]

end DeleteTopics

/-! ### Metadata -/

namespace Metadata

/-- The names of the topics. A null name is an empty text on the wire before version 10, and no
name at all from then on. -/
def Request.namesOnWire (version : Int16) (r : Request) : List String :=
  if 10 ≤ version then (r.topics.getD []).filterMap (·.name)
  else (r.topics.getD []).map (·.name.getD "")

/-- The list of topics is null, or empty in version 0, which knows no null. -/
def Request.AsksForAll (version : Int16) (r : Request) : Prop :=
  r.topics = none ∨ version = 0 ∧ r.topics = some []

theorem Request.topics_normal (version : Int16) (r : Request) :
    (r.normal version).topics.getD [] = (r.topics.getD []).map (Topic.normal version) := by
  by_cases hversion : version = 0
  · simp [Request.normal, hversion]
  · cases htopics : r.topics <;> simp [Request.normal, hversion, htopics]

theorem Request.topicNames_normal (version : Int16) (r : Request) :
    (r.normal version).topicNames = r.namesOnWire version := by
  rw [topicNames, topics_normal, namesOnWire, List.filterMap_map]
  by_cases hversion : 10 ≤ version
  · rw [if_pos hversion]
    refine List.filterMap_congr fun t _ => ?_
    simp [Topic.normal, hversion]
  · rw [if_neg hversion, ← List.filterMap_eq_map]
    refine List.filterMap_congr fun t _ => ?_
    simp [Topic.normal, hversion]

theorem Request.coversAllTopics_normal (version : Int16) (r : Request) :
    (r.normal version).coversAllTopics version = true ↔ r.AsksForAll version := by
  unfold AsksForAll
  by_cases hversion : version = 0
  · cases htopics : r.topics <;> simp [coversAllTopics, Request.normal, hversion, htopics]
  · cases htopics : r.topics <;> simp [coversAllTopics, Request.normal, hversion, htopics]

end Metadata

/-! ### All request types -/

namespace Api

/-- The topics named in those fields that a version writes, in their order. -/
def namesOnWire : (api : Api) → (version : Int16) → api.Layout → List String
  | .produce, _, r => r.topics.map (·.name)
  | .fetch, version, r => r.topics.map (·.topic) ++ r.forgottenOnWire version
  | .listOffsets, _, r => r.topics.map (·.name)
  | .metadata, version, r => r.namesOnWire version
  | .offsetCommit, _, r => r.topics.map (·.name)
  | .offsetFetch, version, r => (r.topicsOnWire version).map (·.name)
  | .createTopics, _, r => r.topics.map (·.name)
  | .deleteTopics, version, r => r.namesOnWire version
  | .createPartitions, _, r => r.topics.map (·.name)

/-- The consumer groups named in those fields that a version writes, in their order. -/
def groupsOnWire : (api : Api) → (version : Int16) → api.Layout → List String
  | .offsetCommit, _, r => [r.groupId]
  | .offsetFetch, version, r => r.groupsOnWire version
  | _, _, _ => []

/-- The topics in the order in which they are listed. Two request types drop repetitions. -/
def listing : (api : Api) → (version : Int16) → api.Layout → List String
  | .fetch, version, r => r.listing version
  | .offsetFetch, version, r => ((r.topicsOnWire version).map (·.name)).eraseDups
  | api, version, r => api.namesOnWire version r

/-- Only metadata can be asked for without names. -/
def AsksForAll : (api : Api) → (version : Int16) → api.Layout → Prop
  | .metadata, version, r => r.AsksForAll version
  | _, _, _ => False

/-- **Listing loses no name and adds none.** -/
theorem mem_listing {api : Api} {version : Int16} {r : api.Layout} {name : String} :
    name ∈ api.listing version r ↔ name ∈ api.namesOnWire version r := by
  cases api with
  | fetch =>
    show name ∈ r.topics.map (·.topic) ++
      ((r.forgottenOnWire version).filter (· ∉ r.topics.map (·.topic))).eraseDups ↔ _
    rw [← appendNew_eq, mem_appendNew]
    exact List.mem_append.symm
  | offsetFetch => exact List.mem_eraseDups
  | produce | listOffsets | metadata | offsetCommit | createTopics | deleteTopics
  | createPartitions => exact Iff.rfl

theorem topics_normal (api : Api) (version : Int16) (r : api.Layout) :
    api.topics (api.normal version r) = api.listing version r := by
  cases api with
  | fetch => exact Fetch.Request.topicNames_normal version r
  | offsetFetch => exact OffsetFetch.Request.topicNames_normal version r
  | deleteTopics => exact DeleteTopics.Request.topicNames_normal version r
  | metadata => exact Metadata.Request.topicNames_normal version r
  | produce | listOffsets | offsetCommit | createTopics | createPartitions =>
    -- normal forms keep the names of topics
    exact List.map_map

theorem groups_normal (api : Api) (version : Int16) (r : api.Layout) :
    api.groups (api.normal version r) = api.groupsOnWire version r := by
  cases api with
  | offsetFetch => exact OffsetFetch.Request.groupNames_normal version r
  | produce | fetch | listOffsets | metadata | offsetCommit | createTopics | deleteTopics
  | createPartitions => rfl

theorem coversAllTopics_normal (api : Api) (version : Int16) (r : api.Layout) :
    api.coversAllTopics (api.normal version r) version = true ↔ api.AsksForAll version r := by
  cases api with
  | metadata => exact Metadata.Request.coversAllTopics_normal version r
  | produce | fetch | listOffsets | offsetCommit | offsetFetch | createTopics | deleteTopics
  | createPartitions => exact iff_of_false Bool.false_ne_true id

end Api

namespace Body

variable {body : Body}

/-- **Nothing named on the wire goes unreported.** A body that was written is read back, and then
reports exactly the topics and groups that its version wrote, in the order of the wire, and
whether it meant every topic. -/
theorem exists_decode_encode_names {bs : Bytes} (encoded : body.encode = .ok bs)
    (limits : body.WithinLimits) :
    ∃ read, decode body.api.code body.version bs = .ok read ∧
      (∀ name, name ∈ read.topics ↔ name ∈ body.api.namesOnWire body.version body.layout) ∧
      read.topics = body.api.listing body.version body.layout ∧
      read.groups = body.api.groupsOnWire body.version body.layout ∧
      (read.allTopics = true ↔ body.api.AsksForAll body.version body.layout) := by
  have htopics : body.normal.topics = body.api.listing body.version body.layout :=
    Api.topics_normal body.api body.version body.layout
  refine ⟨body.normal, decode_encode encoded limits, fun name => ?_, htopics, ?_, ?_⟩
  · rw [htopics]
    exact Api.mem_listing
  · exact Api.groups_normal body.api body.version body.layout
  · exact Api.coversAllTopics_normal body.api body.version body.layout

/-- A fetch that names two topics in one list and three in the other. -/
def forgetfulFetch : Body where
  api := .fetch
  version := 7
  layout := {
    topics := [{ topic := "b" }, { topic := "a" }]
    forgotten := [{ topic := "c" }, { topic := "a" }, { topic := "c" }] }
  supported := by decide

theorem exists_decode_encode_names_forgetfulFetch :
    let bs : Bytes := List.replicate 25 0 ++
      [0, 0, 0, 2, 0, 1, 0x62, 0, 0, 0, 0, 0, 1, 0x61, 0, 0, 0, 0,
        0, 0, 0, 3, 0, 1, 0x63, 0, 0, 0, 0, 0, 1, 0x61, 0, 0, 0, 0, 0, 1, 0x63, 0, 0, 0, 0]
    forgetfulFetch.encode = .ok bs ∧ forgetfulFetch.WithinLimits ∧
      ∃ read, decode 1 7 bs = .ok read ∧ read.topics = ["b", "a", "c"] ∧ read.groups = [] ∧
        read.allTopics = false := by
  intro bs
  have encoded : forgetfulFetch.encode = .ok bs := rfl
  have limits : forgetfulFetch.WithinLimits := by decide
  obtain ⟨read, hread, -, htopics, hgroups, hall⟩ := exists_decode_encode_names encoded limits
  refine ⟨encoded, limits, read, hread, ?_, hgroups, ?_⟩
  · rw [htopics]
    decide
  · exact Bool.eq_false_iff.mpr hall.mp

end Body

end KafkaWire
