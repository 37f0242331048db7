import KafkaWire.Proofs.Request.Frame
import KafkaWire.Proofs.Wire.Stability

/-!
# Accepted request bodies are stable

A request body is accepted in many spellings, and encoding it again picks one of them. From then
on nothing changes: the new spelling is accepted as the same body and is what that body is encoded
as. It is never longer than the old one.

In the versions before the first flexible one there are no varints, so nothing can get shorter
either. There the only choice of spelling is that of an empty array, which some layouts accept as
null although they have no null form for it. A decoder that refuses this (`Body.decodeAs true`)
accepts **exactly one spelling of each body**.

## Main definitions

* `Body.decodeAs` — decoding, with or without null for arrays that have no null form

## Main results

* `Api.isClassic_format` — versions before the first flexible one are classic
* `Body.decodeAs_eq_ok` — what decoding accepts, in terms of formats
* `Body.stable_of_decode` — encoding again what was decoded
-/

namespace KafkaWire

/-! ### Versions without varints -/

theorem Form.of_lt {version firstFlexible : Int16} (h : version < firstFlexible) :
    Form.of version firstFlexible = .classic := by
  rw [Form.of, if_neg (Int16.not_le.mpr h)]

/-- **Before the first flexible version a layout is classic**, whatever parts the version has. -/
theorem Api.isClassic_format {api : Api} {version : Int16} (h : version < api.firstFlexible) :
    (api.format version).isClassic = true := by
  cases api with
  | produce =>
    have hform : Form.of version Produce.firstFlexible = .classic := Form.of_lt h
    simp [Api.format, Produce.Request.format, Produce.Topic.format, Produce.Partition.format, hform,
      Format.isClassic, Primitive.isClassic, Format.int16, Format.int32, Format.string,
      Format.nullableString, Format.nullableBytes, Format.since]
  | fetch =>
    have hform : Form.of version Fetch.firstFlexible = .classic := Form.of_lt h
    simp [Api.format, Fetch.Request.format, Fetch.Topic.format, Fetch.Partition.format,
      Fetch.Forgotten.format, hform, Format.isClassic, Primitive.isClassic, Format.int8,
      Format.int32, Format.int64, Format.string, Format.since]
  | listOffsets =>
    have hform : Form.of version ListOffsets.firstFlexible = .classic := Form.of_lt h
    simp [Api.format, ListOffsets.Request.format, ListOffsets.Topic.format,
      ListOffsets.Partition.format, hform, Format.isClassic, Primitive.isClassic, Format.int8,
      Format.int32, Format.int64, Format.string, Format.since, Format.within]
  | metadata =>
    have hform : Form.of version Metadata.firstFlexible = .classic := Form.of_lt h
    simp [Api.format, Metadata.Request.format, Metadata.Topic.format, hform, Format.isClassic,
      Primitive.isClassic, Format.bool, Format.uuid, Format.string, Format.nullableString,
      Format.since, Format.within]
  | offsetCommit =>
    have hform : Form.of version OffsetCommit.firstFlexible = .classic := Form.of_lt h
    simp [Api.format, OffsetCommit.Request.format, OffsetCommit.Topic.format,
      OffsetCommit.Partition.format, hform, Format.isClassic, Primitive.isClassic, Format.int32,
      Format.int64, Format.string, Format.nullableString, Format.since, Format.within]
  | offsetFetch =>
    have hform : Form.of version OffsetFetch.firstFlexible = .classic := Form.of_lt h
    simp [Api.format, OffsetFetch.Request.format, OffsetFetch.Topic.format,
      OffsetFetch.Group.format, hform, Format.isClassic, Primitive.isClassic, Format.bool,
      Format.int32, Format.string, Format.since, Format.upTo]
  | createTopics =>
    have hform : Form.of version CreateTopics.firstFlexible = .classic := Form.of_lt h
    simp [Api.format, CreateTopics.Request.format, CreateTopics.Topic.format,
      CreateTopics.Assignment.format, CreateTopics.Config.format, hform, Format.isClassic,
      Primitive.isClassic, Format.bool, Format.int16, Format.int32, Format.string,
      Format.nullableString, Format.since]
  | deleteTopics =>
    have hform : Form.of version DeleteTopics.firstFlexible = .classic := Form.of_lt h
    simp [Api.format, DeleteTopics.Request.format, DeleteTopics.Topic.format, hform,
      Format.isClassic, Primitive.isClassic, Format.int32, Format.uuid, Format.string,
      Format.nullableString, Format.since, Format.upTo]
  | createPartitions =>
    have hform : Form.of version CreatePartitions.firstFlexible = .classic := Form.of_lt h
    simp [Api.format, CreatePartitions.Request.format, CreatePartitions.Topic.format,
      CreatePartitions.Assignment.format, hform, Format.isClassic, Primitive.isClassic, Format.bool,
      Format.int32, Format.string]

/-! ### What decoding accepts -/

namespace Body

/-- Reads contents into a body of the same type and version. If `strict`, the mark for null is
refused in front of an array that has no null form in that version. -/
def readerAs (strict : Bool) (body : Body) : Reader Body := do
  return body.withLayout (← body.format.readAs strict)

/-- The body that a complete buffer spells, read strictly or not. -/
def decodeAs (strict : Bool) (code version : Int16) (bs : Bytes) : Except Error Body := do
  ((← empty code version).readerAs strict).all bs

/-- Decoding is the lenient case. -/
theorem decodeAs_false (code version : Int16) :
    decodeAs false code version = decode code version := by
  have hreader (body : Body) : body.readerAs false = body.reader := by
    rw [readerAs, reader, Format.readAs_false]
  funext bs
  simp only [decodeAs, decode, hreader]

variable {strict : Bool} {code version : Int16} {bs : Bytes} {body : Body}

/-- **A body is accepted** if it is of the key and version asked for and its format reads the
whole buffer. -/
theorem decodeAs_eq_ok : decodeAs strict code version bs = .ok body ↔
    (body.api.code = code ∧ body.version = version) ∧
      body.format.readAs strict bs = .ok (body.layout, []) := by
  constructor
  · intro h
    rw [decodeAs] at h
    cases hempty : empty code version with
    | error e =>
      rw [hempty] at h
      cases h
    | ok start =>
      rw [hempty] at h
      have hread : start.readerAs strict bs = .ok (body, []) := Reader.all_eq_ok.mp h
      obtain ⟨layout, hlayout, rfl⟩ := Reader.bind_pure_eq_ok.mp hread
      have hstart := of_empty hempty
      exact ⟨hstart, hlayout⟩
  · rintro ⟨⟨rfl, rfl⟩, h⟩
    rw [decodeAs, empty_eq]
    exact Reader.all_eq_ok.mpr (Reader.bind_pure_eq_ok.mpr ⟨body.layout, h, rfl⟩)

theorem decode_eq_ok : decode code version bs = .ok body ↔
    (body.api.code = code ∧ body.version = version) ∧
      body.format.read bs = .ok (body.layout, []) := by
  rw [← decodeAs_false, decodeAs_eq_ok, Format.readAs_false]

/-- An accepted body is as it would be read back. -/
theorem sound_of_decode (accepted : decode code version bs = .ok body) :
    body.normal = body ∧ body.WithinLimits := by
  obtain ⟨-, hread⟩ := decode_eq_ok.mp accepted
  obtain ⟨hnormal, hlimits⟩ := Format.sound_of_read hread
  refine ⟨?_, hlimits⟩
  rw [format, Api.normal_format] at hnormal
  rw [normal, hnormal]
  rfl

/-! ### Encoding again -/

/-- **An accepted body is stable.** What it is encoded as is decoded as the same body, is encoded
the same again, and is no longer than the buffer that was accepted. Before the first flexible
version it can always be encoded, as a buffer of the same length, and as the same one unless null
was accepted where there is no null form. -/
theorem stable_of_decode (accepted : decode code version bs = .ok body) :
    (∀ out, body.encode = .ok out → decode code version out = .ok body ∧
      out.length ≤ bs.length ∧ (decode code version out >>= encode) = .ok out) ∧
    (version < body.api.firstFlexible → ∃ out, body.encode = .ok out ∧ out.length = bs.length ∧
      ((∃ other, decodeAs true code version bs = .ok other) → out = bs)) := by
  obtain ⟨hnormal, limits⟩ := sound_of_decode accepted
  obtain ⟨⟨rfl, rfl⟩, hread⟩ := decode_eq_ok.mp accepted
  constructor
  · intro out encoded
    have again : decode body.api.code body.version out = .ok body := by
      rw [decode_encode encoded limits, hnormal]
    refine ⟨again, ?_, ?_⟩
    · exact Format.length_le_of_read hread (Output.encode_eq_ok.mp encoded)
    · rw [again]
      exact encoded
  · intro classic
    have hclassic : body.format.isClassic = true := Api.isClassic_format classic
    rw [← Format.readAs_false] at hread
    obtain ⟨out, hout, hlength, -⟩ := Format.exists_writes_of_readAs hclassic hread
    refine ⟨out, Output.encode_eq_ok.mpr hout, hlength, ?_⟩
    rintro ⟨other, strictly⟩
    obtain ⟨hsame, hother⟩ := decodeAs_eq_ok.mp strictly
    have lenient := decode_eq_ok.mpr ⟨hsame, Format.read_of_readAs hother⟩
    obtain rfl : other = body := Except.ok.inj (lenient.symm.trans accepted)
    obtain ⟨out', hout', -, heq⟩ := Format.exists_writes_of_readAs hclassic hother
    rw [hout.unique hout', heq rfl]

/-- A deletion of nothing in version 0, which has no null form for the list of names. -/
def emptyDeletion : Body where
  api := .deleteTopics
  version := 0
  layout := ({ timeoutMs := 5 } : DeleteTopics.Request)
  supported := by decide

/-- The list is accepted as null, but not strictly, and is written as an empty one, which is
accepted either way. -/
theorem stable_of_decode_emptyDeletion :
    let bs : Bytes := [0xff, 0xff, 0xff, 0xff, 0, 0, 0, 5]
    let out : Bytes := [0, 0, 0, 0, 0, 0, 0, 5]
    decode 20 0 bs = .ok emptyDeletion ∧ (0 : Int16) < emptyDeletion.api.firstFlexible ∧
      emptyDeletion.encode = .ok out ∧
      (decode 20 0 out = .ok emptyDeletion ∧ out.length ≤ bs.length ∧
        (decode 20 0 out >>= encode) = .ok out) ∧
      decodeAs true 20 0 bs = .error (.invalidLength .items (-1)) ∧
      decodeAs true 20 0 out = .ok emptyDeletion := by
  intro bs out
  have accepted : decode 20 0 bs = .ok emptyDeletion := rfl
  have classic : (0 : Int16) < emptyDeletion.api.firstFlexible := by decide
  have encoded : emptyDeletion.encode = .ok out := rfl
  have again := (stable_of_decode accepted).1 out encoded
  have strictly : decodeAs true 20 0 out = .ok emptyDeletion := rfl
  -- accepted strictly, the empty list is the only spelling
  obtain ⟨out', encoded', -, hsame⟩ := (stable_of_decode again.1).2 classic
  obtain rfl : out' = out := hsame ⟨emptyDeletion, strictly⟩
  exact ⟨accepted, classic, encoded', again, rfl, strictly⟩

end Body

end KafkaWire
