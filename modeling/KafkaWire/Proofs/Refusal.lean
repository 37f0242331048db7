import KafkaWire.Proofs.Request.Frame
import KafkaWire.Wire.Failure

/-!
# Why decoding fails

A proxy does one of three things with a request: it inspects it, it passes it on because there is
no decoder for it, or it refuses it as malformed. Only the error of decoding tells the last two
apart, so the errors have to be of two kinds and no others.

They are. Readers blame the bytes whatever they find (`Reader.Built.isDecoding`), and the only other
error of a frame comes from selecting the decoder. That happens after the length was compared and
the header was read, so a frame that is said to have no decoder is sound up to its body; and it is
never accepted, because a decoder was selected for every frame that is.

## Main definitions

* `FrameHead.NoDecoder` — there is no decoder for a key and version, and the error that says so
* `Request.readHeader` — what stands between the head and the body of a frame
* `Request.ReachesBody` — a frame that is sound up to its body
* `Request.Refused` — what a frame can be refused for

## Main results

* `Body.empty_eq_error` — when there is no decoder
* `Request.isDecoding_or_noDecoder` — the two kinds of errors
* `Request.length_ne_of_decode` — when a frame is refused for its length
* `refusal_of_decoding` — the errors of all decoders
-/

namespace KafkaWire

/-! ### Selecting a decoder -/

/-- There is no decoder for the key and version of a head, and `e` says so. -/
inductive FrameHead.NoDecoder (head : FrameHead) : (e : Error) → Prop
  /-- The key is that of no request type. -/
  | key : (∀ api : Api, api.code ≠ head.apiKey) → NoDecoder head (.unsupportedApiKey head.apiKey)
  /-- The request type has no such version. -/
  | version (api : Api) : api.code = head.apiKey → head.apiVersion ∉ api.versions →
    NoDecoder head (.unsupportedApiVersion head.apiKey head.apiVersion)

theorem FrameHead.NoDecoder.not_isDecoding {head : FrameHead} {e : Error}
    (h : head.NoDecoder e) : e.isDecoding = false := by
  cases h <;> rfl

theorem Api.ofCode_eq_error {code : Int16} {e : Error} :
    ofCode code = .error e ↔ e = .unsupportedApiKey code ∧ ∀ api : Api, api.code ≠ code := by
  have hnone : all.find? (·.code == code) = none ↔ ∀ api : Api, api.code ≠ code := by
    rw [List.find?_eq_none]
    constructor
    · intro h api hcode
      exact h api api.mem_all (beq_iff_eq.mpr hcode)
    · intro h api _ hcode
      exact h api (beq_iff_eq.mp hcode)
  rw [ofCode, ← hnone]
  cases all.find? (·.code == code) with
  | none => simp [eq_comm]
  | some api => simp

/-- **When there is no decoder.** -/
theorem Body.empty_eq_error {head : FrameHead} {e : Error} :
    empty head.apiKey head.apiVersion = .error e ↔ head.NoDecoder e := by
  rw [empty]
  cases hcode : Api.ofCode head.apiKey with
  | error e' =>
    obtain ⟨rfl, hnone⟩ := Api.ofCode_eq_error.mp hcode
    constructor
    · rintro ⟨⟩
      exact .key hnone
    · rintro (_ | ⟨api, hapi, -⟩)
      · rfl
      · exact absurd hapi (hnone api)
  | ok api =>
    have hapi : api.code = head.apiKey := Api.code_of_ofCode hcode
    show emptyOf api head.apiKey head.apiVersion = .error e ↔ _
    rw [emptyOf, if_neg (not_not_intro hapi.symm)]
    constructor
    · intro h
      split at h
      · cases h
      · rename_i hsupports
        cases h
        exact .version api hapi (mt api.supports_iff.mpr hsupports)
    · rintro (hnone | ⟨other, hother, hversion⟩)
      · exact absurd hapi (hnone api)
      · have hsame : other = api := by
          rw [← hother, Api.ofCode_code] at hcode
          exact Except.ok.inj hcode
        rw [← hsame, dif_neg (mt other.supports_iff.mp hversion)]

/-! ### The steps before the body -/

namespace FrameHead

/-- A frame begins with one head only. -/
theorem bytes_append_inj {head head' : FrameHead} {after after' : Bytes}
    (h : head.bytes ++ after = head'.bytes ++ after') : head = head' := by
  have hread (head : FrameHead) (after : Bytes) : (do
      let length ← Reader.int32
      let key ← Reader.int16
      let version ← Reader.int16
      return ⟨length, key, version⟩ : Reader FrameHead) (head.bytes ++ after) =
        .ok (head, after) := by
    rw [bytes, List.append_assoc, Reader.bind_of_ok (Reader.int32_append _ _), List.append_assoc,
      Reader.bind_of_ok (Reader.int16_append _ _), Reader.bind_of_ok (Reader.int16_append _ _)]
    rfl
  have hsame := hread head after
  rw [h, hread head' after'] at hsame
  cases hsame
  rfl

end FrameHead

namespace Request

variable {flexible : Bool} {head : FrameHead} {frame after : Bytes} {e : Error}

/-- Reads what stands between the head and the body. -/
def readHeader (flexible : Bool) : Reader (Int32 × Option String × Option TagBuffer) := do
  let correlationId ← Reader.int32
  let clientId ← (Primitive.nullableString .classic).read
  let headerTags ← readTags flexible
  return (correlationId, clientId, headerTags)

theorem readAfterHead_eq (flexible : Bool) (head : FrameHead) :
    readAfterHead flexible head = (do
      let header ← readHeader flexible
      let body ← readBody head
      return ⟨header.1, header.2.1, header.2.2, body⟩ : Reader Request) := by
  simp only [readAfterHead, readHeader, bind_assoc, pure_bind]

theorem built_readHeader (flexible : Bool) : (readHeader flexible).Built := by
  refine Reader.built_int32.bind fun id => ?_
  refine (Primitive.built_read (.nullableString .classic)).bind fun client => ?_
  refine .bind ?_ fun tags => .value (id, client, tags)
  cases flexible with
  | true => exact TagBuffer.built_read.map some
  | false => exact .value none

/-- The frame is as long as its head declares, and its header can be read. What is left of it is
the body. -/
def ReachesBody (flexible : Bool) (frame : Bytes) (head : FrameHead) : Prop :=
  ∃ after header body, FrameHead.reader frame = .ok (head, after) ∧
    head.length.toInt = (after.length + 4 : Nat) ∧
    readHeader flexible after = .ok (header, body)

/-! ### The errors of frames -/

/-- A body is malformed, or there is no decoder for it. -/
theorem blamesContents_or_noDecoder_of_readBody (h : readBody head after = .error e) :
    e.blamesContents = true ∨ head.NoDecoder e := by
  rw [readBody_eq] at h
  rcases Reader.bind_eq_error.mp h with hselect | ⟨empty, mid, -, hread⟩
  · exact .inr (Body.empty_eq_error.mp (Reader.ofExcept_eq_error.mp hselect))
  · exact .inl (empty.built_reader.blamesContents hread)

/-- What a frame can be refused for. -/
inductive Refused (flexible : Bool) (frame : Bytes) : (e : Error) → Prop
  /-- Its contents are malformed. -/
  | contents {e : Error} : e.blamesContents = true → Refused flexible frame e
  /-- It is of another length than its head declares. -/
  | length {head : FrameHead} {after : Bytes} : FrameHead.reader frame = .ok (head, after) →
    head.length.toInt ≠ (after.length + 4 : Nat) →
    Refused flexible frame (.packetDecoding (.frameLength head.length (after.length + 4)))
  /-- It is sound up to its body, and there is no decoder for what its head announces. -/
  | decoder {e : Error} {head : FrameHead} : ReachesBody flexible frame head →
    head.NoDecoder e → Refused flexible frame e

/-- **Nothing else is said of a frame** that is refused. -/
theorem refused_of_decode (h : decode flexible frame = .error e) : Refused flexible frame e := by
  rw [decode, Reader.all_eq_whole, Reader.whole_eq_error] at h
  rcases h with h | ⟨_, rest, -, -, rfl⟩
  · rcases Reader.bind_eq_error.mp h with hhead | ⟨head, after, hhead, -⟩
    · exact .contents (FrameHead.built_reader.blamesContents hhead)
    by_cases hlength : head.length.toInt = (after.length + 4 : Nat)
    · rw [reader_of_length hhead hlength, readAfterHead_eq] at h
      rcases Reader.bind_eq_error.mp h with hheader | ⟨header, body, hheader, h⟩
      · exact .contents ((built_readHeader flexible).blamesContents hheader)
      rcases Reader.bind_eq_error.mp h with hbody | ⟨_, _, -, hpure⟩
      · rcases blamesContents_or_noDecoder_of_readBody hbody with hblames | hnone
        · exact .contents hblames
        · exact .decoder ⟨after, header, body, hhead, hlength, hheader⟩ hnone
      · cases hpure
    · rw [reader_of_length_ne hhead hlength] at h
      cases h
      exact .length hhead hlength
  · exact .contents rfl

/-- **The two kinds of errors.** A frame is malformed, or it is sound up to its body and there is
no decoder for what its head announces. -/
theorem isDecoding_or_noDecoder (h : decode flexible frame = .error e) :
    e.isDecoding = true ∨ ∃ head, ReachesBody flexible frame head ∧ head.NoDecoder e := by
  cases refused_of_decode h with
  | contents hblames => exact .inl (Error.isDecoding_of_blamesContents hblames)
  | length _ _ => exact .inl rfl
  | decoder hreaches hnone => exact .inr ⟨_, hreaches, hnone⟩

/-- **The length is found wrong only where it is wrong.** -/
theorem length_ne_of_decode {declared : Int32} {received : Nat}
    (h : decode flexible frame = .error (.packetDecoding (.frameLength declared received))) :
    ∃ head after, FrameHead.reader frame = .ok (head, after) ∧
      head.length.toInt ≠ (after.length + 4 : Nat) := by
  cases refused_of_decode h with
  | contents hblames => cases hblames
  | length hhead hlength => exact ⟨_, _, hhead, hlength⟩
  | decoder _ hnone => cases hnone

/-- Of a frame that is sound up to its body it is always said that there is no decoder. -/
theorem decode_of_noDecoder (hreaches : ReachesBody flexible frame head)
    (hnone : head.NoDecoder e) : decode flexible frame = .error e := by
  obtain ⟨after, header, body, hhead, hlength, hheader⟩ := hreaches
  have hselect : readBody head body = .error e := by
    rw [readBody_eq, Body.empty_eq_error.mpr hnone]
    rfl
  refine Reader.all_of_error ?_
  rw [reader_of_length hhead hlength, readAfterHead_eq, Reader.bind_of_ok hheader]
  exact Reader.bind_of_error hselect _

/-- **A decoder was selected for every frame that is accepted.** -/
theorem exists_decoder_of_decode {r : Request}
    (accepted : decode flexible (head.bytes ++ after) = .ok r) :
    ∃ api : Api, api.code = head.apiKey ∧ head.apiVersion ∈ api.versions := by
  obtain ⟨head', after', hhead, -, hafter⟩ := reader_eq_ok.mp (Reader.all_eq_ok.mp accepted)
  obtain ⟨⟨hkey, hversion⟩, -⟩ := of_readAfterHead hafter
  obtain rfl := FrameHead.bytes_append_inj (FrameHead.reader_eq_ok.mp hhead).2
  refine ⟨r.body.api, hkey.symm, ?_⟩
  rw [hversion]
  exact r.body.api.supports_iff.mp r.body.supported

end Request

/-! ### All decoders -/

theorem Reader.isDecoding_fill {α : Type} {r : Reader α} (h : r.Built) {old : α} {bs : Bytes}
    {e : Error} (herror : (r.fill old bs).2 = .error e) : e.isDecoding = true := by
  rw [fill] at herror
  split at herror
  · rename_i hread
    cases herror
    exact h.isDecoding hread
  · cases herror
  · cases herror
    rfl

/-- **Why decoding fails.**

A request body, decoded by its key and version or into a body that exists, and a struct of any
schema are refused only as malformed. So is a frame, unless it is as long as it declares, its
header can be read, and there is no decoder for the key and version that it begins with. Then it
is refused for that, with an error that is not one of malformed bytes: the key if no request type
has it, and otherwise the version. A frame without a decoder is never accepted, whatever it
holds.

The last two parts are about readers put together from general steps, whose failures are told as
errors by `StepFault.toError` and `Failure.toError`. None of the readers above is one of these, and
nothing else here rests on the two parts. -/
theorem refusal_of_decoding :
    (∀ (body : Body) bs e, Body.decode body.api.code body.version bs = .error e →
      e.isDecoding = true) ∧
    (∀ (body old : Body) bs e, (body.reader.fill old bs).2 = .error e → e.isDecoding = true) ∧
    (∀ (schema : Schema) bs e, schema.decode bs = .error e → e.isDecoding = true) ∧
    (∀ flexible frame e, Request.decode flexible frame = .error e →
      e.isDecoding = true ∨
        ∃ head, Request.ReachesBody flexible frame head ∧ head.NoDecoder e) ∧
    (∀ flexible frame head e, Request.ReachesBody flexible frame head → head.NoDecoder e →
      e.isDecoding = false ∧ Request.decode flexible frame = .error e) ∧
    (∀ flexible (head : FrameHead) after,
      (∀ api : Api, api.code = head.apiKey → head.apiVersion ∉ api.versions) →
      ∀ r, Request.decode flexible (head.bytes ++ after) ≠ .ok r) ∧
    (∀ fault : StepFault, fault.toError.isDecoding = true) ∧
    ∀ failure : Failure,
      (∀ e, failure = .recoverable e ∨ failure = .final e → e.isDecoding = true) →
      failure.toError.isDecoding = true := by
  refine ⟨?_, ?_, ?_, ?_, ?_, ?_, StepFault.isDecoding_toError,
    fun _ => Failure.isDecoding_toError⟩
  · intro body bs e h
    rw [body.decode_eq_whole] at h
    exact (Body.built_reader _).isDecoding_whole (fun _ => rfl) h
  · intro body old bs e h
    exact Reader.isDecoding_fill body.built_reader h
  · intro schema bs e h
    rw [schema.decode_eq_whole] at h
    exact schema.built_read.isDecoding_whole (fun _ => rfl) h
  · intro flexible frame e h
    exact Request.isDecoding_or_noDecoder h
  · intro flexible frame head e hreaches hnone
    exact ⟨hnone.not_isDecoding, Request.decode_of_noDecoder hreaches hnone⟩
  · intro flexible head after hnone r accepted
    obtain ⟨api, hcode, hversion⟩ := Request.exists_decoder_of_decode accepted
    exact hnone api hcode hversion

/-- Frames of an unknown key and of an unknown version of a known one, and the first of them with a
byte behind it. -/
theorem refusal_of_decoding_unknown :
    let after : Bytes := [0, 0, 0, 7, 0xff, 0xff]
    Request.decode false ((⟨10, 99, 0⟩ : FrameHead).bytes ++ after) =
        .error (.unsupportedApiKey 99) ∧
      Request.decode false ((⟨10, 3, 13⟩ : FrameHead).bytes ++ after) =
        .error (.unsupportedApiVersion 3 13) ∧
      (∀ r, Request.decode false ((⟨10, 99, 0⟩ : FrameHead).bytes ++ (after ++ [0])) ≠ .ok r) := by
  intro after
  have hreaches (key version : Int16) : Request.ReachesBody false
      ((⟨10, key, version⟩ : FrameHead).bytes ++ after) ⟨10, key, version⟩ :=
    ⟨after, (7, none, none), [],
      FrameHead.reader_eq_ok.mpr ⟨(by decide : (4 : Int32) < 10), rfl⟩, rfl, rfl⟩
  have hkey (api : Api) : api.code ≠ 99 := by
    cases api <;> decide
  obtain ⟨-, -, -, -, refused, never, -, -⟩ := refusal_of_decoding
  refine ⟨?_, ?_, ?_⟩
  · exact (refused _ _ _ _ (hreaches 99 0) (.key hkey)).2
  · exact (refused _ _ _ _ (hreaches 3 13) (.version .metadata rfl (by decide))).2
  · exact never false ⟨10, 99, 0⟩ _ fun api hcode => absurd hcode (hkey api)

end KafkaWire
