import KafkaWire.Proofs.Response.Redirection

/-!
# Redirecting classic responses in place

A redirected response is decoded and encoded as a whole, and never patched. For classic versions
the outcome is nevertheless that of **patching the bytes in place**: where the old endpoints were
the new ones are, and everything between them is as before. Two facts make it so. Decoding loses
nothing, since each value has one spelling, and host and port stand side by side.

## Main definitions

* `Endpoint.wire` — the bytes of an endpoint in a classic response
* `splice` — endpoints with bytes in front of them, between them and behind them
* `Spliced` — two byte strings that differ in their endpoints only

## Main results

* `Struct.spliced_withEndpoint` — a struct with another endpoint
* `Redirector.Decoded.spliced` — a response with other endpoints
* `Redirector.observe_classic` — redirecting a classic response
-/

namespace KafkaWire

/-- The bytes of an endpoint in a classic response: the size of the host, the host and the
port. -/
def Endpoint.wire (e : Endpoint) : Bytes :=
  toBigEndian 2 e.host.utf8ByteSize ++
    (Primitive.textBytes e.host ++ toBigEndian 4 e.port.toUInt32.toNat)

/-- Endpoints, the first of them behind `front` and each of them before a gap. -/
def splice : (front : Bytes) → (gaps : List Bytes) → List Endpoint → Bytes
  | front, gap :: gaps, e :: endpoints => front ++ (e.wire ++ splice gap gaps endpoints)
  | front, _, _ => front

/-- Two byte strings that are the same except for the endpoints in them. -/
inductive Spliced : (old new : Bytes) → (before after : List Endpoint) → Prop
  | same (bs : Bytes) : Spliced bs bs [] []
  | step (front : Bytes) (e e' : Endpoint) {old new : Bytes} {before after : List Endpoint}
    (rest : Spliced old new before after) :
    Spliced (front ++ (e.wire ++ old)) (front ++ (e'.wire ++ new)) (e :: before) (e' :: after)

namespace Spliced

variable {old new old' new' : Bytes} {before after before' after' : List Endpoint}

theorem prepend (h : Spliced old new before after) (bs : Bytes) :
    Spliced (bs ++ old) (bs ++ new) before after := by
  cases h with
  | same => exact .same _
  | step front e e' rest =>
    have hstep := step (bs ++ front) e e' rest
    rw [List.append_assoc, List.append_assoc] at hstep
    exact hstep

theorem append (h : Spliced old new before after) (h' : Spliced old' new' before' after') :
    Spliced (old ++ old') (new ++ new') (before ++ before') (after ++ after') := by
  induction h with
  | same bs => exact h'.prepend bs
  | step front e e' rest ih =>
    simp only [List.append_assoc, List.cons_append]
    exact .step front e e' ih

/-- What the two have in common are the bytes around the endpoints. -/
theorem exists_gaps (h : Spliced old new before after) :
    ∃ front gaps, gaps.length = before.length ∧ gaps.length = after.length ∧
      old = splice front gaps before ∧ new = splice front gaps after := by
  induction h with
  | same bs => exact ⟨bs, [], rfl, rfl, rfl, rfl⟩
  | step front e e' rest ih =>
    obtain ⟨gap, gaps, hbefore, hafter, rfl, rfl⟩ := ih
    exact ⟨front, gap :: gaps, congrArg Nat.succ hbefore, congrArg Nat.succ hafter, rfl, rfl⟩

end Spliced

/-! ### Single structs -/

theorem Field.writeEach_append {fields fields' : List Field} {values values' : List Value}
    (h : fields.length = values.length) :
    writeEach (fields ++ fields') (values ++ values') =
      writeEach fields values ++ writeEach fields' values' := by
  induction fields generalizing values with
  | nil =>
    obtain rfl := List.length_eq_zero_iff.mp h.symm
    rw [List.nil_append, List.nil_append, writeEach, Output.empty_append]
  | cons field fields ih =>
    cases values with
    | nil => cases h
    | cons v values =>
      rw [List.cons_append, List.cons_append, writeEach, writeEach, ih (Nat.succ.inj h),
        Output.append_assoc]

/-- **Exchanging a run of values exchanges its bytes**, and nothing around them. -/
theorem Field.exists_context {front mid back : List Field} {ahead us us' behind : List Value}
    (hfront : front.length = ahead.length) (hus : mid.length = us.length)
    (hus' : mid.length = us'.length) {old new : Bytes}
    (hold : (writeEach (front ++ (mid ++ back)) (ahead ++ (us ++ behind))).Writes old)
    (hnew : (writeEach (front ++ (mid ++ back)) (ahead ++ (us' ++ behind))).Writes new) :
    ∃ before bs bs' after, (writeEach mid us).Writes bs ∧ (writeEach mid us').Writes bs' ∧
      old = before ++ (bs ++ after) ∧ new = before ++ (bs' ++ after) := by
  rw [writeEach_append hfront, writeEach_append hus] at hold
  rw [writeEach_append hfront, writeEach_append hus'] at hnew
  obtain ⟨before, rest, hbefore, hrest, rfl⟩ := Output.writes_append.mp hold
  obtain ⟨bs, after, hbs, hafter, rfl⟩ := Output.writes_append.mp hrest
  obtain ⟨before', rest', hbefore', hrest', rfl⟩ := Output.writes_append.mp hnew
  obtain ⟨bs', after', hbs', hafter', rfl⟩ := Output.writes_append.mp hrest'
  rw [hbefore.unique hbefore', hafter.unique hafter']
  exact ⟨before', bs, bs', after', hbs, hbs', rfl, rfl⟩

theorem Length.bytes_of_writes_text {n : Nat} {bs : Bytes}
    (h : (write .text .classic n).Writes bs) : bs = toBigEndian 2 n := by
  have hlimit := le_writeLimit_of_writes h
  have hbits : (Int16.ofNat n).toUInt16.toNat = n := by
    have hlt : n < 2 ^ 16 := by
      simp only [Counted.writeLimit] at hlimit
      omega
    rw [Int16.toUInt16_ofNat', UInt16.toNat_ofNat', Nat.mod_eq_of_lt hlt]
  unfold write at h
  rw [if_neg (Nat.not_lt.mpr hlimit)] at h
  obtain rfl := Output.writes_chunk.mp h
  rw [Chunk.bytes, hbits]

/-- The fields of an endpoint in classic form. -/
def Endpoint.fields : List Field :=
  [⟨"host", .primitive (.string .classic)⟩, ⟨"port", .primitive .int32⟩]

/-- The values of an endpoint. -/
def Endpoint.values (e : Endpoint) : List Value := [.string e.host, .int32 e.port]

/-- In classic form an endpoint takes the bytes of its host and then of its port. -/
theorem Endpoint.wire_of_writes {e : Endpoint} {bs : Bytes}
    (h : (Field.writeEach fields e.values).Writes bs) : bs = e.wire := by
  obtain ⟨host, rest, hhost, hrest, rfl⟩ := Output.writes_append.mp h
  obtain ⟨port, none, hport, hnone, rfl⟩ := Output.writes_append.mp hrest
  obtain ⟨length, text, hlength, htext, rfl⟩ := Output.writes_append.mp hhost
  obtain rfl := Output.writes_empty.mp hnone
  obtain rfl := Output.writes_chunk.mp htext
  obtain rfl := Output.writes_chunk.mp hport
  obtain rfl := Length.bytes_of_writes_text hlength
  rw [List.append_nil]
  exact List.append_assoc _ _ _

/-- Classic structs with a host and a port, the one right after the other. -/
structure Schema.HasClassicEndpoint (schema : Schema) (front back : List Field) : Prop where
  fields_eq : schema.fields = front ++ (Endpoint.fields ++ back)
  host : schema.indexOf? "host" = some front.length
  port : schema.indexOf? "port" = some (front.length + 1)

/-- The values of a struct, taken apart where its endpoint is. -/
theorem Struct.Holds.values_eq {s : Struct} {e : Endpoint} {front back : List Field}
    (h : s.Holds e) (hs : s.schema.HasClassicEndpoint front back) :
    ∃ ahead behind, front.length = ahead.length ∧ s.values = ahead ++ (e.values ++ behind) ∧
      ∀ new : Endpoint, s.withEndpoint new = ⟨s.schema, ahead ++ (new.values ++ behind)⟩ := by
  obtain ⟨i, hi, hhost⟩ := get_eq_ok.mp h.host
  obtain ⟨j, hj, hport⟩ := get_eq_ok.mp h.port
  obtain rfl : front.length = i := Option.some.inj (hs.host.symm.trans hi)
  obtain rfl : front.length + 1 = j := Option.some.inj (hs.port.symm.trans hj)
  obtain ⟨hlt, hhost⟩ := List.getElem?_eq_some_iff.mp hhost
  obtain ⟨hlt', hport⟩ := List.getElem?_eq_some_iff.mp hport
  have hvalues : s.values = s.values.take front.length ++
      (e.values ++ s.values.drop (front.length + 2)) := by
    show s.values = s.values.take front.length ++ .string e.host :: .int32 e.port ::
      s.values.drop (front.length + 2)
    rw [← hhost, ← hport, ← List.drop_eq_getElem_cons hlt', ← List.drop_eq_getElem_cons hlt,
      List.take_append_drop]
  have hahead : (s.values.take front.length).length = front.length :=
    List.length_take_of_le (Nat.le_of_lt hlt)
  refine ⟨_, _, hahead.symm, hvalues, fun new => ?_⟩
  simp only [Struct.withEndpoint, put, hi, hj]
  congr 1
  generalize s.values.take front.length = ahead at hahead hvalues
  rw [hvalues, ← hahead]
  simp [Endpoint.values]

/-- **A struct with another endpoint** differs from the first in the bytes of the endpoint. -/
theorem Struct.spliced_withEndpoint {s : Struct} {e e' : Endpoint} {front back : List Field}
    (h : s.Holds e) (hs : s.schema.HasClassicEndpoint front back) {old new : Bytes}
    (hold : s.write.Writes old) (hnew : (s.withEndpoint e').write.Writes new) :
    Spliced old new [e] [e'] := by
  obtain ⟨ahead, behind, hahead, hvalues, hwith⟩ := h.values_eq hs
  rw [writes_iff, hvalues, hs.fields_eq] at hold
  rw [writes_iff, hwith, hs.fields_eq] at hnew
  obtain ⟨before, bs, bs', after, hbs, hbs', rfl, rfl⟩ :=
    Field.exists_context hahead rfl rfl hold.2 hnew.2
  rw [Endpoint.wire_of_writes hbs, Endpoint.wire_of_writes hbs']
  exact .step before e e' (.same after)

/-- A list of structs with other endpoints. -/
theorem Value.spliced_zipWith {schema : Schema} {front back : List Field} {field : String}
    (hschema : schema.HasClassicEndpoint front back) {items : List Value}
    (h : ∀ v ∈ items, ∃ e, v.Holds e) {answers : List Endpoint}
    (hlength : answers.length = items.length) {old new : Bytes}
    (hold : (Output.forEach ((FieldType.struct schema).write field) items).Writes old)
    (hnew : (Output.forEach ((FieldType.struct schema).write field)
      (List.zipWith withEndpoint items answers)).Writes new) :
    Spliced old new (endpoints items) answers := by
  induction items generalizing answers old new with
  | nil =>
    obtain rfl := List.length_eq_zero_iff.mp hlength
    obtain rfl := Output.writes_empty.mp hold
    obtain rfl := Output.writes_empty.mp hnew
    exact .same []
  | cons v items ih =>
    cases answers with
    | nil => cases hlength
    | cons answer answers =>
      obtain ⟨e, hv⟩ := h v List.mem_cons_self
      rw [endpoints_cons hv]
      obtain ⟨s, rfl, hs⟩ := hv
      rw [Output.forEach_cons] at hold
      rw [List.zipWith_cons_cons, Output.forEach_cons] at hnew
      obtain ⟨first, rest, hfirst, hrest, rfl⟩ := Output.writes_append.mp hold
      obtain ⟨first', rest', hfirst', hrest', rfl⟩ := Output.writes_append.mp hnew
      obtain ⟨_, hs₁, rfl, hwrite⟩ := FieldType.writes_struct.mp hfirst
      obtain ⟨_, hs₂, -, hwrite'⟩ := FieldType.writes_struct.mp hfirst'
      cases hs₁
      cases hs₂
      have htail := ih (fun w hw => h w (List.mem_cons_of_mem _ hw)) (Nat.succ.inj hlength)
        hrest hrest'
      exact (Struct.spliced_withEndpoint hs hschema hwrite hwrite').append htail

/-! ### Whole responses -/

/-- Exchanging the value of a field exchanges its bytes. -/
theorem Struct.writes_put {s : Struct} {name : String} {v w : Value} (hget : s.get name = .ok v)
    {old new : Bytes} (hold : s.write.Writes old) (hnew : (s.put name w).write.Writes new) :
    ∃ (field : Field) (front mid mid' back : Bytes), s.schema.typeOf? name = some field.type ∧
      (field.type.write field.name v).Writes mid ∧ (field.type.write field.name w).Writes mid' ∧
      old = front ++ (mid ++ back) ∧ new = front ++ (mid' ++ back) := by
  obtain ⟨i, hindex, hv⟩ := get_eq_ok.mp hget
  obtain ⟨hlt, hv⟩ := List.getElem?_eq_some_iff.mp hv
  rw [writes_iff] at hold
  rw [put_of_indexOf hindex, writes_iff] at hnew
  have hlt' : i < s.schema.fields.length := by
    have hcount := hold.1
    omega
  have hfields : s.schema.fields =
      s.schema.fields.take i ++ ([s.schema.fields[i]] ++ s.schema.fields.drop (i + 1)) := by
    rw [List.singleton_append, ← List.drop_eq_getElem_cons hlt', List.take_append_drop]
  have hvalues : s.values = s.values.take i ++ ([v] ++ s.values.drop (i + 1)) := by
    rw [← hv, List.singleton_append, ← List.drop_eq_getElem_cons hlt, List.take_append_drop]
  have hset : s.values.set i w = s.values.take i ++ ([w] ++ s.values.drop (i + 1)) := by
    rw [List.set_eq_take_append_cons_drop, if_pos hlt, List.singleton_append]
  have htake : (s.schema.fields.take i).length = (s.values.take i).length := by
    rw [List.length_take_of_le (Nat.le_of_lt hlt'), List.length_take_of_le (Nat.le_of_lt hlt)]
  have hold' := hold.2
  have hnew' := hnew.2
  rw [hfields, hvalues] at hold'
  rw [hset, hfields] at hnew'
  obtain ⟨front, mid, mid', back, hmid, hmid', rfl, rfl⟩ :=
    Field.exists_context htake rfl rfl hold' hnew'
  have hsingle : ∀ {u : Value} {bs : Bytes}, (Field.writeEach [s.schema.fields[i]] [u]).Writes bs →
      (s.schema.fields[i].type.write s.schema.fields[i].name u).Writes bs := by
    intro u bs h
    rw [← Field.write_eq]
    simpa only [Field.writeEach, Output.append_empty] using h
  refine ⟨s.schema.fields[i], front, mid, mid', back, ?_, hsingle hmid, hsingle hmid', rfl, rfl⟩
  rw [Schema.typeOf?, hindex]
  simp [hlt']

namespace Redirector

variable {r : Redirector} {response : Struct} {body : Bytes}

/-- In classic versions the host and the port of a holder stand side by side. -/
theorem item_hasClassicEndpoint (classic : r.version < r.source.firstFlexible) :
    ∃ front back, r.item.HasClassicEndpoint front back := by
  cases h : r.source with
  | metadata =>
    rw [h] at classic
    have hform : Form.of r.version MetadataResponse.firstFlexible = .classic :=
      if_neg (Int16.not_le.mpr classic)
    rw [item, h]
    refine ⟨[⟨"node_id", .primitive .int32⟩],
      MetadataResponse.fieldsIf (1 ≤ r.version) [⟨"rack", .primitive (.nullableString .classic)⟩] ++
        MetadataResponse.tagFields .classic, ?_, rfl, rfl⟩
    simp only [MetadataResponse.brokerSchema, hform]
    rfl
  | findCoordinator =>
    rw [h] at classic
    have hform : Form.of r.version FindCoordinatorResponse.firstFlexible = .classic :=
      if_neg (Int16.not_le.mpr classic)
    have hlist : ¬ FindCoordinatorResponse.firstListing ≤ r.version := by
      refine Int16.not_le.mpr (Int16.lt_trans classic ?_)
      decide
    rw [item, h]
    simp only [hlist, if_false, hform]
    exact ⟨[⟨"node_id", .primitive .int32⟩], [], rfl, rfl, rfl⟩

/-- **A response with other endpoints** differs from the first in the bytes of the endpoints. -/
theorem Decoded.spliced (h : r.Decoded response) (classic : r.version < r.source.firstFlexible)
    {answers : List Endpoint} (hlength : answers.length = (r.endpoints response).length)
    {old new : Bytes} (hold : response.write.Writes old)
    (hnew : (r.place response answers).write.Writes new) :
    Spliced old new (r.endpoints response) answers := by
  obtain ⟨front, back, hitem⟩ := item_hasClassicEndpoint classic
  cases h.located with
  | null _ hget =>
    rw [endpoints_of_null hget] at hlength ⊢
    obtain rfl := List.length_eq_zero_iff.mp hlength
    rw [place_of_null hget] at hnew
    rw [hold.unique hnew]
    exact .same new
  | array items form _ htype hget _ _ hholds =>
    rw [endpoints_of_items hget] at hlength ⊢
    rw [Value.length_endpoints hholds] at hlength
    rw [place_of_items hget] at hnew
    obtain ⟨field, ahead, mid, mid', behind, hfield, hmid, hmid', rfl, rfl⟩ :=
      Struct.writes_put hget hold hnew
    rw [Option.some.inj (hfield.symm.trans htype)] at hmid hmid'
    obtain ⟨count, elements, hcount, helements, rfl⟩ := Output.writes_append.mp hmid
    obtain ⟨count', elements', hcount', helements', rfl⟩ := Output.writes_append.mp hmid'
    rw [List.length_zipWith, hlength, Nat.min_self] at hcount'
    obtain rfl := hcount.unique hcount'
    have hspliced := Value.spliced_zipWith hitem hholds hlength helements helements'
    have hbehind := (hspliced.prepend (ahead ++ count)).append (.same behind)
    simpa only [List.append_assoc, List.append_nil] using hbehind
  | single s e _ htype hget _ hholds =>
    rw [endpoints_of_struct hget hholds] at hlength ⊢
    obtain ⟨answer, rfl⟩ := List.length_eq_one_iff.mp hlength
    rw [place_of_struct hget] at hnew
    obtain ⟨field, ahead, mid, mid', behind, hfield, hmid, hmid', rfl, rfl⟩ :=
      Struct.writes_put hget hold hnew
    rw [Option.some.inj (hfield.symm.trans htype)] at hmid hmid'
    obtain ⟨_, hs₁, hschema, hwrite⟩ := FieldType.writes_struct.mp hmid
    obtain ⟨_, hs₂, -, hwrite'⟩ := FieldType.writes_struct.mp hmid'
    cases hs₁
    cases hs₂
    rw [← hschema] at hitem
    have hspliced := Struct.spliced_withEndpoint hholds hitem hwrite hwrite'
    have hbehind := (hspliced.prepend ahead).append (.same behind)
    simpa only [List.append_assoc, List.append_nil] using hbehind

/-- **Redirecting a classic response is patching it in place.** The bytes around the endpoints
stay as they are, whatever the mapping answers; if it answers what it was asked, so do all. -/
theorem observe_classic (r : Redirector) (classic : r.version < r.source.firstFlexible) :
    (∀ f body out, (r.observe f body).1 = .ok out → ∃ response answers front gaps,
      r.schema.decode body = .ok response ∧
      (r.endpoints response).map f = answers.map .ok ∧
      gaps.length = (r.endpoints response).length ∧
      body = splice front gaps (r.endpoints response) ∧ out = splice front gaps answers) ∧
    ∀ body response, r.schema.decode body = .ok response → (r.observe .ok body).1 = .ok body := by
  have hself : ∀ {body response}, r.schema.decode body = .ok response →
      r.schema.encode response = .ok body := Schema.encode_decode (isClassic classic)
  constructor
  · intro f body out hout
    cases hdecode : r.schema.decode body with
    | error e =>
      rw [observe_of_decode_error hdecode] at hout
      cases hout
    | ok response =>
      have hdecoded : r.Decoded response := decoded_of_decode hdecode
      obtain ⟨answers, hanswers⟩ := exists_answers_of_observe hdecode hout
      rw [observe_of_answers hdecode hanswers] at hout
      have hspliced := hdecoded.spliced classic (length_of_answers hanswers)
        (Schema.encode_eq_ok.mp (hself hdecode)).2 (Schema.encode_eq_ok.mp hout).2
      obtain ⟨front, gaps, hgaps, -, hbody, hnew⟩ := hspliced.exists_gaps
      exact ⟨response, answers, front, gaps, rfl, hanswers, hgaps, hbody, hnew⟩
  · intro body response hdecode
    have hanswers : (r.endpoints response).map (Except.ok : Endpoint → Except Error Endpoint) =
        (r.endpoints response).map .ok := rfl
    rw [observe_of_answers hdecode hanswers,
      (decoded_of_decode hdecode).place_endpoints]
    exact hself hdecode

/-- The hosts grow, and what is around them moves without change. -/
theorem observe_classic_twoBrokers :
    let out : Bytes :=
      [0, 0, 0, 2,
        0, 0, 0, 1, 0, 5, 112, 114, 111, 120, 121, 0, 0, 39, 108, 255, 255,
        0, 0, 0, 2, 0, 5, 112, 114, 111, 120, 121, 0, 0, 39, 109, 0, 1, 114,
        0, 0, 0, 1, 0, 0, 0, 0]
    metadataV1.version < metadataV1.source.firstFlexible ∧
      (metadataV1.observe throughProxy.map twoBrokers).1 = .ok out ∧
      (∃ response answers front gaps,
        metadataV1.schema.decode twoBrokers = .ok response ∧
        (metadataV1.endpoints response).map throughProxy.map = answers.map .ok ∧
        gaps.length = (metadataV1.endpoints response).length ∧
        twoBrokers = splice front gaps (metadataV1.endpoints response) ∧
        out = splice front gaps answers) := by
  intro out
  have classic : metadataV1.version < metadataV1.source.firstFlexible := by decide
  have hout : (metadataV1.observe throughProxy.map twoBrokers).1 = .ok out := rfl
  exact ⟨classic, hout, (observe_classic metadataV1 classic).1 throughProxy.map twoBrokers out hout⟩

end Redirector

end KafkaWire
