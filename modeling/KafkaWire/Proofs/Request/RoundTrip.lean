import KafkaWire.Proofs.Request.Normal
import KafkaWire.Request.Body

/-!
# Requests come back

Every request body that can be written is read back, in normal form, and the normal form is
written the same. Both statements come from the formats; what is left to say of the nine layouts
is that **no element of an array vanishes**: each begins with a part that takes bytes in every
version, or, where that part is younger than the layout, has one after it.

## Main definitions

* `Body.normal` — a body as it is read back
* `Body.WithinLimits` — what is on the wire keeps to the limits of reading

## Main results

* `Api.countable` — reading admits the arrays of every layout
* `Body.decode_encode_normal` — the round trip of request bodies
-/

namespace KafkaWire

namespace Format

theorem leavesTrace_int32 : int32.LeavesTrace := leavesTrace_primitive .int32

theorem leavesTrace_string (form : Form) : (string form).LeavesTrace :=
  leavesTrace_primitive (.string form)

theorem leavesTrace_nullableString (form : Form) : (nullableString form).LeavesTrace :=
  leavesTrace_primitive (.nullableString form)

theorem countable_tags (form : Form) : (tags form).Countable := trivial

end Format

/-! ### Arrays of structs -/

theorem Produce.Partition.countable_array (form : Form) (version : Int16) :
    (Format.array form (Partition.format version)).Countable := by
  refine ⟨.record (.pair_left Format.leavesTrace_int32 _), ?_⟩
  simp [Partition.format, Format.Countable, Format.countable_tags, Format.int32,
    Format.nullableBytes]

theorem Produce.Topic.countable_array (form : Form) (version : Int16) :
    (Format.array form (Topic.format version)).Countable := by
  refine ⟨.record (.pair_left (Format.leavesTrace_string _) _), ?_⟩
  exact ⟨trivial, Partition.countable_array _ version, Format.countable_tags _⟩

theorem Fetch.Partition.countable_array (form : Form) (version : Int16) :
    (Format.array form (Partition.format version)).Countable := by
  refine ⟨.record (.pair_left Format.leavesTrace_int32 _), ?_⟩
  simp [Partition.format, Format.Countable, Format.countable_tags, Format.since, Format.int32,
    Format.int64]

theorem Fetch.Topic.countable_array (form : Form) (version : Int16) :
    (Format.array form (Topic.format version)).Countable := by
  refine ⟨.record (.pair_left (Format.leavesTrace_string _) _), ?_⟩
  exact ⟨trivial, Partition.countable_array _ version, Format.countable_tags _⟩

theorem Fetch.Forgotten.countable_array (form : Form) (version : Int16) :
    (Format.array form (Forgotten.format version)).Countable := by
  refine ⟨.record (.pair_left (Format.leavesTrace_string _) _), ?_⟩
  exact ⟨trivial, ⟨Format.leavesTrace_int32, trivial⟩, Format.countable_tags _⟩

theorem ListOffsets.Partition.countable_array (form : Form) (version : Int16) :
    (Format.array form (Partition.format version)).Countable := by
  refine ⟨.record (.pair_left Format.leavesTrace_int32 _), ?_⟩
  simp [Partition.format, Format.Countable, Format.countable_tags, Format.since, Format.within,
    Format.int32, Format.int64]

theorem ListOffsets.Topic.countable_array (form : Form) (version : Int16) :
    (Format.array form (Topic.format version)).Countable := by
  refine ⟨.record (.pair_left (Format.leavesTrace_string _) _), ?_⟩
  exact ⟨trivial, Partition.countable_array _ version, Format.countable_tags _⟩

/-- The identifier came with version 10, so it is the name that leaves a trace. -/
theorem Metadata.Topic.countable_array (form : Form) (version : Int16) :
    (Format.array form (Topic.format version)).Countable := by
  by_cases h : 10 ≤ version
  · refine ⟨.record (.pair_right (.pair_left ?_ _) _), ?_⟩
    · simp only [if_pos h]
      exact Format.leavesTrace_nullableString _
    · simp [Topic.format, Format.Countable, Format.countable_tags, Format.since, Format.uuid,
        Format.nullableString, h]
  · refine ⟨.record (.pair_right (.pair_left ?_ _) _), ?_⟩
    · simp only [if_neg h]
      exact .required (Format.leavesTrace_string _) _
    · simp [Topic.format, Format.Countable, Format.countable_tags, Format.since, Format.uuid,
        Format.string, h]

theorem OffsetCommit.Partition.countable_array (form : Form) (version : Int16) :
    (Format.array form (Partition.format version)).Countable := by
  refine ⟨.record (.pair_left Format.leavesTrace_int32 _), ?_⟩
  simp [Partition.format, Format.Countable, Format.countable_tags, Format.since, Format.within,
    Format.int32, Format.int64, Format.nullableString]

theorem OffsetCommit.Topic.countable_array (form : Form) (version : Int16) :
    (Format.array form (Topic.format version)).Countable := by
  refine ⟨.record (.pair_left (Format.leavesTrace_string _) _), ?_⟩
  exact ⟨trivial, Partition.countable_array _ version, Format.countable_tags _⟩

theorem OffsetFetch.Topic.countable_array (form : Form) (version : Int16) :
    (Format.array form (Topic.format version)).Countable := by
  refine ⟨.record (.pair_left (Format.leavesTrace_string _) _), ?_⟩
  exact ⟨trivial, ⟨Format.leavesTrace_int32, trivial⟩, Format.countable_tags _⟩

theorem OffsetFetch.Group.countable_array (form : Form) (version : Int16) :
    (Format.array form (Group.format version)).Countable := by
  refine ⟨.record (.pair_left (Format.leavesTrace_string _) _), ?_⟩
  exact ⟨trivial, Topic.countable_array form version, Format.countable_tags _⟩

theorem CreateTopics.Assignment.countable_array (form : Form) (version : Int16) :
    (Format.array form (Assignment.format version)).Countable := by
  refine ⟨.record (.pair_left Format.leavesTrace_int32 _), ?_⟩
  exact ⟨trivial, ⟨Format.leavesTrace_int32, trivial⟩, Format.countable_tags _⟩

theorem CreateTopics.Config.countable_array (form : Form) (version : Int16) :
    (Format.array form (Config.format version)).Countable := by
  refine ⟨.record (.pair_left (Format.leavesTrace_string _) _), ?_⟩
  exact ⟨trivial, trivial, Format.countable_tags _⟩

theorem CreateTopics.Topic.countable_array (form : Form) (version : Int16) :
    (Format.array form (Topic.format version)).Countable := by
  refine ⟨.record (.pair_left (Format.leavesTrace_string _) _), ?_⟩
  exact ⟨trivial, trivial, trivial, Assignment.countable_array _ version,
    Config.countable_array _ version, Format.countable_tags _⟩

theorem DeleteTopics.Topic.countable_array (form : Form) (version : Int16) :
    (Format.array form (Topic.format version)).Countable := by
  refine ⟨.record (.pair_left (Format.leavesTrace_nullableString _) _), ?_⟩
  exact ⟨trivial, trivial, Format.countable_tags _⟩

theorem CreatePartitions.Assignment.countable_array (form : Form) (version : Int16) :
    (Format.array form (Assignment.format version)).Countable := by
  refine ⟨.record (.pair_left (Format.leavesTrace_array _ _) _), ?_⟩
  exact ⟨⟨Format.leavesTrace_int32, trivial⟩, Format.countable_tags _⟩

theorem CreatePartitions.Topic.countable_array (form : Form) (version : Int16) :
    (Format.array form (Topic.format version)).Countable := by
  refine ⟨.record (.pair_left (Format.leavesTrace_string _) _), ?_⟩
  exact ⟨trivial, trivial, Assignment.countable_array form version, Format.countable_tags _⟩

/-! ### All request types -/

/-- **Reading admits the arrays of every layout**, in every version. -/
theorem Api.countable (api : Api) (version : Int16) : (api.format version).Countable := by
  cases api with
  | produce =>
    exact ⟨trivial, trivial, trivial, Produce.Topic.countable_array _ version,
      Format.countable_tags _⟩
  | fetch =>
    exact ⟨trivial, trivial, trivial, trivial, trivial, trivial, trivial,
      Fetch.Topic.countable_array _ version, Fetch.Forgotten.countable_array _ version, trivial,
      Format.countable_tags _⟩
  | listOffsets =>
    exact ⟨trivial, trivial, ListOffsets.Topic.countable_array _ version,
      Format.countable_tags _⟩
  | metadata =>
    refine ⟨?_, trivial, trivial, trivial, Format.countable_tags _⟩
    by_cases h : version = 0
    · simp only [if_pos h]
      exact Metadata.Topic.countable_array _ version
    · simp only [if_neg h]
      exact Metadata.Topic.countable_array (Form.of version Metadata.firstFlexible) version
  | offsetCommit =>
    exact ⟨trivial, trivial, trivial, trivial, trivial,
      OffsetCommit.Topic.countable_array _ version, Format.countable_tags _⟩
  | offsetFetch =>
    refine ⟨trivial, ?_, OffsetFetch.Group.countable_array _ version, trivial,
      Format.countable_tags _⟩
    by_cases h : 2 ≤ version
    · simp only [if_pos h]
      exact OffsetFetch.Topic.countable_array (Form.of version OffsetFetch.firstFlexible) version
    · simp only [if_neg h]
      exact OffsetFetch.Topic.countable_array _ version
  | createTopics =>
    exact ⟨CreateTopics.Topic.countable_array _ version, trivial, trivial,
      Format.countable_tags _⟩
  | deleteTopics =>
    exact ⟨DeleteTopics.Topic.countable_array _ version,
      ⟨Format.leavesTrace_string _, trivial⟩, trivial, Format.countable_tags _⟩
  | createPartitions =>
    exact ⟨CreatePartitions.Topic.countable_array _ version, trivial, trivial,
      Format.countable_tags _⟩

/-- In all, 81 pairs of request type and version are supported. -/
example : (Api.all.map fun api => api.versions.length).sum = 81 := by decide

theorem Api.ofCode_code (api : Api) : ofCode api.code = .ok api := by
  cases api <;> rfl

namespace Body

variable (body : Body)

/-- The body as it is read back. -/
def normal : Body := body.withLayout (body.api.normal body.version body.layout)

/-- What the version has of the body keeps to the limits of reading: no array has more than
`maxItems` elements, and tag buffers ascend, with at most `maxItems` fields of less than `2 ^ 32`
bytes. -/
def WithinLimits : Prop := body.format.WithinLimits body.layout

instance : Decidable body.WithinLimits := body.format.decidableWithinLimits body.layout

theorem empty_eq : empty body.api.code body.version =
    .ok (body.withLayout body.api.emptyLayout) := by
  have hcode : empty body.api.code body.version =
      emptyOf body.api body.api.code body.version := by
    rw [empty, Api.ofCode_code]
    rfl
  rw [hcode, emptyOf, if_neg (not_not_intro rfl), dif_pos body.supported]
  rfl

variable {body}

theorem reader_eq_ok {bs rest : Bytes} {layout : body.api.Layout}
    (h : body.format.read bs = .ok (layout, rest)) :
    body.reader bs = .ok (body.withLayout layout, rest) := by
  rw [reader, Reader.bind_of_ok h]
  rfl

/-- A body that was written is read back in normal form, whatever follows. -/
theorem reader_write {bs : Bytes} (written : body.write.Writes bs) (limits : body.WithinLimits)
    (rest : Bytes) : body.reader (bs ++ rest) = .ok (body.normal, rest) := by
  have hlayout := Format.read_write (Api.countable body.api body.version) limits written rest
  rw [Api.normal_format] at hlayout
  exact reader_eq_ok hlayout

theorem decode_encode {bs : Bytes} (encoded : body.encode = .ok bs) (limits : body.WithinLimits) :
    decode body.api.code body.version bs = .ok body.normal := by
  have hself := reader_write (Output.encode_eq_ok.mp encoded) limits []
  rw [List.append_nil] at hself
  have hempty : (body.withLayout body.api.emptyLayout).reader bs = .ok (body.normal, []) := hself
  rw [decode, empty_eq]
  exact Reader.all_eq_ok.mpr hempty

/-- **The round trip of request bodies.** A body that was written is read back in normal form,
from a buffer of its own as well as in front of anything else, and its normal form is written the
same. -/
theorem decode_encode_normal {bs : Bytes} (encoded : body.encode = .ok bs)
    (limits : body.WithinLimits) :
    decode body.api.code body.version bs = .ok body.normal ∧
      (∀ rest, body.reader (bs ++ rest) = .ok (body.normal, rest)) ∧
      body.normal.encode = .ok bs := by
  refine ⟨decode_encode encoded limits, reader_write (Output.encode_eq_ok.mp encoded) limits, ?_⟩
  have hwrite := Format.write_normal body.format body.layout
  rw [format, Api.normal_format] at hwrite
  show (body.format.write (body.api.normal body.version body.layout)).encode = .ok bs
  rw [format, hwrite]
  exact encoded

/-- An offset fetch of version 1, where null, groups and tags have no place. -/
def namelessFetch : Body where
  api := .offsetFetch
  version := 1
  layout := {
    groupId := none
    topics := some
      [{ name := "t", partitionIndexes := [1, 2], tags := { fields := [⟨3, [7]⟩] } }]
    groups := [{ groupId := "g" }]
    requireStable := true }
  supported := by decide

/-- The null name comes back empty; what version 1 lacks is gone. -/
theorem decode_encode_namelessFetch :
    let bs : Bytes := [0, 0, 0, 0, 0, 1, 0, 1, 0x74, 0, 0, 0, 2, 0, 0, 0, 1, 0, 0, 0, 2]
    namelessFetch.encode = .ok bs ∧ namelessFetch.WithinLimits ∧
      (decode 9 1 bs = .ok namelessFetch.normal ∧
        (∀ rest, namelessFetch.reader (bs ++ rest) = .ok (namelessFetch.normal, rest)) ∧
        namelessFetch.normal.encode = .ok bs) ∧
      namelessFetch.normal.layout =
        { groupId := some ""
          topics := some [{ name := "t", partitionIndexes := [1, 2] }] } := by
  intro bs
  have encoded : namelessFetch.encode = .ok bs := rfl
  have limits : namelessFetch.WithinLimits := by decide
  exact ⟨encoded, limits, decode_encode_normal encoded limits, rfl⟩

end Body

end KafkaWire
