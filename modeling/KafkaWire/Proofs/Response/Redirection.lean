import KafkaWire.Proofs.Response.Endpoints

/-!
# What redirecting does

Redirecting a response is three steps that can each fail: it is decoded, the mapping is asked for
every endpoint, and the response with the answers in it is encoded. The first failure is the
result. After the decoding nothing else can go wrong: the answers always fit, and encoding has a
single reason to refuse, a text that is too long.

A mapping that keeps a record of what it was asked (`Redirector.recording`) makes the order of the
questions part of the result.

## Main definitions

* `Redirector.recording` — a mapping that keeps a record
* `Redirector.observe` — the redirected response, and what the mapping was asked for

## Main results

* `Redirector.apply_of_decode` — the three steps, for a mapping with any effects
* `Redirector.observe_eq` — the outcome of redirecting, in every case
-/

namespace KafkaWire

namespace Redirector

variable {r : Redirector} {response : Struct} {body : Bytes}

/-! ### The three steps -/

section Steps

variable {m : Type → Type} [Monad m] [LawfulMonad m] (mapping : AddressMapping m)

theorem apply_of_decode_error {e : Error} (h : r.schema.decode body = .error e) :
    apply mapping r body = throw e := by
  rw [apply, h]
  show (throw e >>= _ : ExceptT Error m Bytes) = throw e
  simp

/-- **Decode, ask, place and encode.** -/
theorem apply_of_decode (h : r.schema.decode body = .ok response) :
    apply mapping r body = (r.endpoints response).mapM mapping >>= fun answers =>
      MonadExcept.ofExcept (r.schema.encode (r.place response answers)) := by
  rw [apply, h, ofExcept_ok, pure_bind, (decoded_of_decode h).replaceAll_eq mapping, bind_assoc]
  simp only [pure_bind]

end Steps

/-! ### Encoding again -/

/-- One text that is too long is enough to prevent encoding. It is the first such text that stops
the writer, and not necessarily the one that is known. -/
theorem Decoded.encode_of_long (h : r.Decoded response)
    (hlong : ∃ text ∈ response.texts, 32767 < text.utf8ByteSize) :
    ∃ text ∈ response.texts, 32767 < text.utf8ByteSize ∧
      r.schema.encode response = .error (.packetEncoding (.tooLong .text text.utf8ByteSize)) := by
  obtain ⟨long, hmem, hsize⟩ := hlong
  rw [← h.schema_eq]
  cases hencode : response.schema.encode response with
  | ok out =>
    have hshort := h.conforms.encode_iff.mp ⟨out, hencode⟩ long hmem
    exact absurd hsize (Nat.not_lt.mpr hshort)
  | error e =>
    obtain ⟨text, htext, hfirst, rfl⟩ := h.conforms.long_of_encode_eq_error hencode
    exact ⟨text, htext, hfirst, rfl⟩

/-- Without one, encoding succeeds, and decoding reverses it. -/
theorem Decoded.encode_of_short (h : r.Decoded response)
    (hshort : ∀ text ∈ response.texts, text.utf8ByteSize ≤ 32767) :
    ∃ out, r.schema.encode response = .ok out ∧ r.schema.decode out = .ok response := by
  obtain ⟨out, hencode⟩ := h.conforms.encode_iff.mpr hshort
  rw [h.schema_eq] at hencode
  obtain ⟨-, hwrites⟩ := Schema.encode_eq_ok.mp hencode
  refine ⟨out, hencode, ?_⟩
  have hread := Schema.read_write r.countable h.conforms.withinLimits h.schema_eq hwrites []
  rw [List.append_nil] at hread
  exact Schema.decode_eq_ok.mpr hread

/-! ### Keeping a record -/

/-- A mapping that keeps a record of the endpoints it was asked for. -/
def recording (f : Endpoint → Except Error Endpoint) : AddressMapping (StateM (List Endpoint)) :=
  fun endpoint => do
    modify (· ++ [endpoint])
    MonadExcept.ofExcept (f endpoint)

/-- The redirected body, or the error in its place, with the endpoints that `f` was asked for. -/
def observe (r : Redirector) (f : Endpoint → Except Error Endpoint) (body : Bytes) :
    Except Error Bytes × List Endpoint :=
  (apply (recording f) r body).run []

variable {f : Endpoint → Except Error Endpoint}

/-- One question: it is recorded, and a refusal is the end. -/
theorem run_recording_bind {α : Type} (endpoint : Endpoint)
    (k : Endpoint → ExceptT Error (StateM (List Endpoint)) α) (asked : List Endpoint) :
    (recording f endpoint >>= k).run asked =
      match f endpoint with
      | .ok answer => (k answer).run (asked ++ [endpoint])
      | .error e => (.error e, asked ++ [endpoint]) := by
  unfold recording
  cases f endpoint <;> rfl

/-- If every question is answered, all of them are recorded in order. -/
theorem run_mapM_recording {α : Type} {endpoints answers : List Endpoint}
    (h : endpoints.map f = answers.map .ok)
    (k : List Endpoint → ExceptT Error (StateM (List Endpoint)) α) (asked : List Endpoint) :
    (endpoints.mapM (recording f) >>= k).run asked = (k answers).run (asked ++ endpoints) := by
  induction endpoints generalizing answers asked k with
  | nil =>
    obtain rfl := List.map_eq_nil_iff.mp h.symm
    rw [List.mapM_nil, pure_bind, List.append_nil]
  | cons endpoint endpoints ih =>
    cases answers with
    | nil => cases h
    | cons answer answers =>
      rw [List.map_cons, List.map_cons, List.cons.injEq] at h
      rw [List.mapM_cons, bind_assoc, run_recording_bind, h.1]
      simp only [bind_assoc, pure_bind]
      rw [ih h.2, List.append_assoc, List.singleton_append]

/-- The first refusal ends the questions. -/
theorem run_mapM_recording_error {α : Type} {before after : List Endpoint} {refused : Endpoint}
    {e : Error} (hbefore : ∀ endpoint ∈ before, (f endpoint).isOk = true)
    (hrefused : f refused = .error e)
    (k : List Endpoint → ExceptT Error (StateM (List Endpoint)) α) (asked : List Endpoint) :
    ((before ++ refused :: after).mapM (recording f) >>= k).run asked =
      (.error e, asked ++ (before ++ [refused])) := by
  induction before generalizing asked k with
  | nil =>
    rw [List.nil_append, List.mapM_cons, bind_assoc, run_recording_bind, hrefused, List.nil_append]
  | cons endpoint before ih =>
    have hok := hbefore endpoint List.mem_cons_self
    cases hanswer : f endpoint with
    | error e' =>
      rw [hanswer] at hok
      cases hok
    | ok answer =>
      rw [List.cons_append, List.mapM_cons, bind_assoc, run_recording_bind, hanswer]
      simp only [bind_assoc, pure_bind]
      rw [ih (fun x hx => hbefore x (List.mem_cons_of_mem endpoint hx)), List.append_assoc]
      rfl

/-! ### The outcome -/

theorem observe_of_decode_error {e : Error} (h : r.schema.decode body = .error e) :
    r.observe f body = (.error e, []) := by
  rw [observe, apply_of_decode_error (recording f) h]
  rfl

theorem observe_of_refusal (h : r.schema.decode body = .ok response)
    {before after : List Endpoint} {refused : Endpoint} {e : Error}
    (hendpoints : r.endpoints response = before ++ refused :: after)
    (hbefore : ∀ endpoint ∈ before, (f endpoint).isOk = true) (hrefused : f refused = .error e) :
    r.observe f body = (.error e, before ++ [refused]) := by
  rw [observe, apply_of_decode (recording f) h, hendpoints]
  exact run_mapM_recording_error hbefore hrefused _ []

theorem observe_of_answers (h : r.schema.decode body = .ok response) {answers : List Endpoint}
    (hanswers : (r.endpoints response).map f = answers.map .ok) : r.observe f body =
      (r.schema.encode (r.place response answers), r.endpoints response) := by
  have hrun := run_mapM_recording hanswers
    (fun answers => MonadExcept.ofExcept (r.schema.encode (r.place response answers))) []
  rw [observe, apply_of_decode (recording f) h]
  refine hrun.trans ?_
  cases r.schema.encode (r.place response answers) <;> rfl

theorem length_of_answers {endpoints answers : List Endpoint}
    (h : endpoints.map f = answers.map .ok) : answers.length = endpoints.length := by
  have hlengths := congrArg List.length h
  rw [List.length_map, List.length_map] at hlengths
  exact hlengths.symm

/-- Either all questions are answered or one of them is the first not to be. -/
theorem answers_or_refusal (f : Endpoint → Except Error Endpoint) (endpoints : List Endpoint) :
    (∃ answers : List Endpoint, endpoints.map f = answers.map .ok) ∨
      ∃ before refused after e, endpoints = before ++ refused :: after ∧
        (∀ endpoint ∈ before, (f endpoint).isOk = true) ∧ f refused = .error e := by
  induction endpoints with
  | nil => exact .inl ⟨[], rfl⟩
  | cons endpoint endpoints ih =>
    cases hanswer : f endpoint with
    | error e =>
      refine .inr ⟨[], endpoint, endpoints, e, rfl, ?_, hanswer⟩
      intro x hx
      cases hx
    | ok answer =>
      rcases ih with ⟨answers, hanswers⟩ | ⟨before, refused, after, e, rfl, hbefore, hrefused⟩
      · refine .inl ⟨answer :: answers, ?_⟩
        rw [List.map_cons, List.map_cons, hanswer, hanswers]
      · refine .inr ⟨endpoint :: before, refused, after, e, rfl, fun x hx => ?_, hrefused⟩
        rcases List.mem_cons.mp hx with rfl | hx
        · rw [hanswer]
          rfl
        · exact hbefore x hx

/-- A redirected body is only had if all questions were answered. -/
theorem exists_answers_of_observe (h : r.schema.decode body = .ok response) {out : Bytes}
    (hout : (r.observe f body).1 = .ok out) :
    ∃ answers : List Endpoint, (r.endpoints response).map f = answers.map .ok := by
  rcases answers_or_refusal f (r.endpoints response) with
    hanswers | ⟨before, refused, after, e, hendpoints, hbefore, hrefused⟩
  · exact hanswers
  · rw [observe_of_refusal h hendpoints hbefore hrefused] at hout
    cases hout

/-- **What redirecting does, in every case.**

A body that cannot be decoded is refused for that reason, and nothing is asked. Otherwise the
mapping is asked for the endpoints of the response in order, one for each value that is to hold
one. The first refusal is the result, and nothing after it is asked. If there is none, the answers
take the places of the endpoints and nothing else changes. Then encoding fails if a text of the
response is too long, and only then; and what is encoded is decoded to just that response. -/
theorem observe_eq (r : Redirector) (f : Endpoint → Except Error Endpoint) (body : Bytes) :
    (∀ e, r.schema.decode body = .error e → r.observe f body = (.error e, [])) ∧
    ∀ response, r.schema.decode body = .ok response →
      (r.held response).map Value.endpoint? = (r.endpoints response).map some ∧
      (∀ before refused after e, r.endpoints response = before ++ refused :: after →
        (∀ endpoint ∈ before, (f endpoint).isOk = true) → f refused = .error e →
        r.observe f body = (.error e, before ++ [refused])) ∧
      ∀ answers, (r.endpoints response).map f = answers.map .ok →
        let placed := r.place response answers
        (r.observe f body).2 = r.endpoints response ∧
        r.endpoints placed = answers ∧ r.place placed (r.endpoints response) = response ∧
        ((∃ text ∈ placed.texts, 32767 < text.utf8ByteSize) →
          ∃ text ∈ placed.texts, 32767 < text.utf8ByteSize ∧ (r.observe f body).1 =
            .error (.packetEncoding (.tooLong .text text.utf8ByteSize))) ∧
        ((∀ text ∈ placed.texts, text.utf8ByteSize ≤ 32767) →
          ∃ out, (r.observe f body).1 = .ok out ∧ r.schema.decode out = .ok placed) := by
  refine ⟨fun e => observe_of_decode_error, fun response hdecode => ?_⟩
  have hdecoded : r.Decoded response := decoded_of_decode hdecode
  refine ⟨hdecoded.map_endpoint, fun before refused after e => observe_of_refusal hdecode, ?_⟩
  intro answers hanswers
  have hlength : answers.length = (r.endpoints response).length := length_of_answers hanswers
  have hplaced : r.Decoded (r.place response answers) := hdecoded.place answers
  rw [observe_of_answers hdecode hanswers]
  exact ⟨rfl, hdecoded.endpoints_place hlength, hdecoded.place_place_endpoints hlength,
    hplaced.encode_of_long, hplaced.encode_of_short⟩

/-- Metadata responses of version 1. -/
def metadataV1 : Redirector := ⟨.metadata, 1, MetadataResponse.schema 1, rfl⟩

/-- Two brokers, of which the second has a rack, and no topics. -/
def twoBrokers : Bytes :=
  [0, 0, 0, 2,
    0, 0, 0, 1, 0, 1, 98, 0, 0, 35, 132, 255, 255,
    0, 0, 0, 2, 0, 2, 98, 50, 0, 0, 35, 133, 0, 1, 114,
    0, 0, 0, 1, 0, 0, 0, 0]

/-- Both brokers are reached through the host `proxy`. -/
def throughProxy : AddressTable :=
  ⟨[(⟨"b", 9092⟩, ⟨"proxy", 10092⟩), (⟨"b2", 9093⟩, ⟨"proxy", 10093⟩)]⟩

/-- Only the first broker is known. -/
def knowsOne : AddressTable := ⟨[(⟨"b", 9092⟩, ⟨"proxy", 10092⟩)]⟩

theorem observe_eq_twoBrokers : ∃ response,
    metadataV1.schema.decode twoBrokers = .ok response ∧
    metadataV1.endpoints response = [⟨"b", 9092⟩, ⟨"b2", 9093⟩] ∧
    (∃ out, (metadataV1.observe throughProxy.map twoBrokers).1 = .ok out ∧
      metadataV1.schema.decode out =
        .ok (metadataV1.place response [⟨"proxy", 10092⟩, ⟨"proxy", 10093⟩])) ∧
    metadataV1.observe knowsOne.map twoBrokers =
      (.error (.addressMapping (.unmapped "b2" 9093)), [⟨"b", 9092⟩, ⟨"b2", 9093⟩]) := by
  have hdecode : metadataV1.schema.decode twoBrokers = .ok ⟨MetadataResponse.schema 1,
      [.array (some
        [.struct ⟨MetadataResponse.brokerSchema 1,
          [.int32 1, .string "b", .int32 9092, .nullableString none]⟩,
        .struct ⟨MetadataResponse.brokerSchema 1,
          [.int32 2, .string "b2", .int32 9093, .nullableString (some "r")]⟩]),
      .int32 1, .array (some [])]⟩ := rfl
  have hproxy := (observe_eq metadataV1 throughProxy.map twoBrokers).2 _ hdecode
  have hone := (observe_eq metadataV1 knowsOne.map twoBrokers).2 _ hdecode
  refine ⟨_, hdecode, rfl, ?_, ?_⟩
  · exact (hproxy.2.2 [⟨"proxy", 10092⟩, ⟨"proxy", 10093⟩] rfl).2.2.2.2 (by decide)
  · exact hone.2.1 [⟨"b", 9092⟩] ⟨"b2", 9093⟩ [] _ rfl (by decide) rfl

end Redirector

end KafkaWire
