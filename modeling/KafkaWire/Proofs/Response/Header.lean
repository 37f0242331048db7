import KafkaWire.Proofs.Response.Redirection
import KafkaWire.Proofs.Wire.Canonical

/-!
# What becomes of the header

The endpoints of a response are in its body, so its header is only read to find out where the body
begins. It is written again all the same, and that need not give the bytes that were read: the tag
buffer of a flexible header has more than one spelling. What stays the same is what a client sees
in it, the correlation number, the tags, and where the body begins; and the bytes never grow in
number.

Redirecting the frame is then redirecting the body, with the same questions to the mapping and the
same failures. This holds for mappings with any effects, since the header is out of the way before
the first question and nothing can fail after the last.

## Main definitions

* `ResponseHeader.WithinLimits` — what reading demands of a header
* `Redirector.observeFrame` — the redirected frame, and what the mapping was asked for

## Main results

* `ResponseHeader.read_write`, `ResponseHeader.read_sound` — headers come back
* `ResponseHeader.canonical_reader` — in no more bytes
* `Redirector.one_le_headerVersion_iff` — the header has tags exactly if the body has
* `Redirector.applyFrame_of_reader` — the header, and then the redirected body
* `Redirector.applyFrame_outcome` — the outcome of redirecting a frame, in every case
-/

namespace KafkaWire

/-! ### Headers on the wire -/

namespace ResponseHeader

variable {version : Int16} {header : ResponseHeader} {bs rest front : Bytes}

/-- The limits that reading holds a header to. -/
def WithinLimits (version : Int16) (header : ResponseHeader) : Prop :=
  if 1 ≤ version then header.tags.WithinLimits else header.tags = {}

/-- Nothing prevents a header from being written. -/
theorem fault_write (version : Int16) (header : ResponseHeader) :
    (header.write version).fault = none := by
  rw [write, Output.fault_append]
  split
  · exact header.tags.fault_write
  · rfl

/-- **A header comes back** if it is within the limits. -/
theorem read_write (hheader : header.WithinLimits version)
    (h : (header.write version).Writes front) (rest : Bytes) :
    reader version (front ++ rest) = .ok (header, rest) := by
  obtain ⟨number, tags, hnumber, htags, rfl⟩ := Output.writes_append.mp h
  obtain rfl := Output.writes_chunk.mp hnumber
  rw [List.append_assoc, reader, Reader.bind_of_ok (Reader.int32_append _ _)]
  rw [WithinLimits] at hheader
  by_cases hflexible : 1 ≤ version
  · rw [if_pos hflexible] at hheader htags
    rw [if_pos hflexible, Reader.bind_of_ok (TagBuffer.read_write hheader htags rest)]
    rfl
  · rw [if_neg hflexible] at hheader htags
    obtain rfl := Output.writes_empty.mp htags
    rw [if_neg hflexible, Reader.bind_of_ok (Reader.pure_run _ _), ← hheader]
    rfl

/-- A header that was read: the number, and then the tags if there are any. -/
theorem reader_eq_ok (h : reader version bs = .ok (header, rest)) :
    ∃ after, bs = (Chunk.int32 header.correlationId).bytes ++ after ∧
      if 1 ≤ version then TagBuffer.read after = .ok (header.tags, rest)
      else header.tags = {} ∧ after = rest := by
  obtain ⟨number, after, hnumber, h⟩ := Reader.bind_eq_ok.mp h
  refine ⟨after, ?_⟩
  by_cases hflexible : 1 ≤ version
  · rw [if_pos hflexible] at h
    obtain ⟨tags, htags, rfl⟩ := Reader.bind_pure_eq_ok.mp h
    rw [if_pos hflexible]
    exact ⟨Reader.int32_exact hnumber, htags⟩
  · rw [if_neg hflexible] at h
    cases h
    rw [if_neg hflexible]
    exact ⟨Reader.int32_exact hnumber, rfl, rfl⟩

/-- **No other header is ever read.** -/
theorem read_sound (h : reader version bs = .ok (header, rest)) : header.WithinLimits version := by
  obtain ⟨after, -, htags⟩ := reader_eq_ok h
  rw [WithinLimits]
  by_cases hflexible : 1 ≤ version
  · rw [if_pos hflexible] at htags ⊢
    exact TagBuffer.read_sound htags
  · rw [if_neg hflexible] at htags ⊢
    exact htags.1

/-- Writing a header that was read gives the bytes it was read from, or fewer. -/
theorem canonical_reader (version : Int16) :
    (reader version).Canonical (write version) := by
  intro bs rest header h
  obtain ⟨after, rfl, htags⟩ := reader_eq_ok h
  refine .append (.of_chunk rfl) ?_
  by_cases hflexible : 1 ≤ version
  · rw [if_pos hflexible] at htags ⊢
    exact TagBuffer.canonical_read htags
  · rw [if_neg hflexible] at htags ⊢
    obtain rfl := htags.2
    exact .of_empty

/-- The correlation number is never respelled. -/
theorem take_four_of_writes (h : reader version bs = .ok (header, rest))
    (hfront : (header.write version).Writes front) (after : Bytes) :
    (front ++ after).take 4 = bs.take 4 := by
  obtain ⟨back, rfl, -⟩ := reader_eq_ok h
  obtain ⟨number, tags, hnumber, -, rfl⟩ := Output.writes_append.mp hfront
  obtain rfl := Output.writes_chunk.mp hnumber
  have hsize : (Chunk.int32 header.correlationId).bytes.length = 4 := Chunk.length_bytes _
  rw [List.append_assoc, List.take_left' hsize, List.take_left' hsize]

end ResponseHeader

/-! ### Which header there is -/

theorem EndpointSource.flexible_of_mem (source : EndpointSource) : ∀ n ∈ source.versions,
    ∀ schema ∈ source.schema? (.ofNat n), (source.firstFlexible ≤ .ofNat n ↔
      .primitive .tagBuffer ∈ schema.fields.map (·.type)) := by
  cases source <;> decide

namespace Redirector

/-- **The header has tags exactly if the body has.** -/
theorem one_le_headerVersion_iff (r : Redirector) :
    1 ≤ r.headerVersion ↔ .primitive .tagBuffer ∈ r.schema.fields.map (·.type) := by
  obtain ⟨n, hmem, hversion⟩ := EndpointSource.exists_mem_versions r.schema_eq
  have hschema := r.schema_eq
  rw [hversion] at hschema
  rw [← r.source.flexible_of_mem n hmem r.schema hschema, ← hversion, headerVersion]
  split
  · rename_i hflexible
    exact iff_of_true (by decide) hflexible
  · rename_i hclassic
    exact iff_of_false (by decide) hclassic

/-! ### Around the body -/

section Frames

variable {m : Type → Type} [Monad m] [LawfulMonad m] (mapping : AddressMapping m)
  {r : Redirector} {frame body front : Bytes} {header : ResponseHeader}

theorem applyFrame_of_reader_error {e : Error}
    (h : ResponseHeader.reader r.headerVersion frame = .error e) :
    applyFrame mapping r frame = throw e := by
  have hrun : (ResponseHeader.reader r.headerVersion).run frame = .error e := h
  rw [applyFrame, hrun]
  show (throw e >>= _ : ExceptT Error m Bytes) = throw e
  simp

/-- **The header, and then the redirected body.** -/
theorem applyFrame_of_reader (h : ResponseHeader.reader r.headerVersion frame = .ok (header, body))
    (hfront : (header.write r.headerVersion).Writes front) :
    applyFrame mapping r frame = (front ++ ·) <$> apply mapping r body := by
  have hrun : (ResponseHeader.reader r.headerVersion).run frame = .ok (header, body) := h
  have hwrites (out : Bytes) : (header.write r.headerVersion ++ .chunk (.raw out)).Writes
      (front ++ out) := hfront.append (Output.writes_chunk.mpr rfl)
  have hresult (out : Bytes) :
      (header.write r.headerVersion ++ .chunk (.raw out)).result = .ok () := by
    rw [Output.result, (hwrites out).fault]
  rw [applyFrame, hrun, ofExcept_ok, pure_bind, map_eq_pure_bind]
  refine bind_congr fun out => ?_
  simp only [hresult, ofExcept_ok, pure_bind, Output.toList_feed_buffer, (hwrites out).bytes]
  rfl

end Frames

/-! ### The outcome -/

/-- The redirected frame, or the error in its place, with the endpoints that `f` was asked for. -/
def observeFrame (r : Redirector) (f : Endpoint → Except Error Endpoint) (frame : Bytes) :
    Except Error Bytes × List Endpoint :=
  (applyFrame (recording f) r frame).run []

variable {r : Redirector} {f : Endpoint → Except Error Endpoint} {frame body front : Bytes}
  {header : ResponseHeader}

theorem observeFrame_of_reader_error {e : Error}
    (h : ResponseHeader.reader r.headerVersion frame = .error e) :
    r.observeFrame f frame = (.error e, []) := by
  rw [observeFrame, applyFrame_of_reader_error (recording f) h]
  rfl

theorem observeFrame_of_reader
    (h : ResponseHeader.reader r.headerVersion frame = .ok (header, body))
    (hfront : (header.write r.headerVersion).Writes front) :
    r.observeFrame f frame = ((r.observe f body).1.map (front ++ ·), (r.observe f body).2) := by
  rw [observeFrame, applyFrame_of_reader (recording f) h hfront, observe]
  show ((front ++ ·) <$> apply (recording f) r body).run.run [] = _
  rw [ExceptT.run_map, StateT.run_map]
  rfl

/-- **What redirecting a frame does, in every case.**

The header is the one that goes with the body: it has tags exactly if the body has. If it cannot be
read, that is the result, and nothing is asked. Otherwise the frame is redirected by redirecting
what follows the header, with the same questions and the same failures, whatever the effects of the
mapping. What is redirected stands behind the header again, written in the same bytes or in fewer,
of which the first four are the same, and the header is read as what it was. -/
theorem applyFrame_outcome {m : Type → Type} [Monad m] [LawfulMonad m] (mapping : AddressMapping m)
    (f : Endpoint → Except Error Endpoint) (r : Redirector) (frame : Bytes) :
    (1 ≤ r.headerVersion ↔ .primitive .tagBuffer ∈ r.schema.fields.map (·.type)) ∧
    (∀ e, ResponseHeader.reader r.headerVersion frame = .error e →
      applyFrame mapping r frame = throw e ∧ r.observeFrame f frame = (.error e, [])) ∧
    ∀ header body, ResponseHeader.reader r.headerVersion frame = .ok (header, body) →
      ∃ original front, frame = original ++ body ∧
        (header.write r.headerVersion).encode = .ok front ∧
        (front = original ∨ front.length < original.length) ∧
        applyFrame mapping r frame = (front ++ ·) <$> apply mapping r body ∧
        (∀ e, (r.observe f body).1 = .error e →
          r.observeFrame f frame = (.error e, (r.observe f body).2)) ∧
        ∀ out, (r.observe f body).1 = .ok out →
          r.observeFrame f frame = (.ok (front ++ out), (r.observe f body).2) ∧
          ResponseHeader.reader r.headerVersion (front ++ out) = .ok (header, out) ∧
          (front ++ out).take 4 = frame.take 4 := by
  refine ⟨r.one_le_headerVersion_iff, fun e herror => ?_, fun header body hread => ?_⟩
  · exact ⟨applyFrame_of_reader_error mapping herror, observeFrame_of_reader_error herror⟩
  have hfront : (header.write r.headerVersion).Writes (header.write r.headerVersion).bytes :=
    ⟨header.fault_write r.headerVersion, rfl⟩
  obtain ⟨original, horiginal, hrespelled⟩ := ResponseHeader.canonical_reader r.headerVersion hread
  have hobserve := observeFrame_of_reader (f := f) hread hfront
  refine ⟨original, _, horiginal, Output.encode_eq_ok.mpr hfront, hrespelled _ hfront,
    applyFrame_of_reader mapping hread hfront, fun e herror => ?_, fun out hout => ?_⟩
  · rw [hobserve, herror]
    rfl
  · rw [hobserve, hout]
    exact ⟨rfl, ResponseHeader.read_write (ResponseHeader.read_sound hread) hfront out,
      ResponseHeader.take_four_of_writes hread hfront out⟩

/-- Find coordinator responses of version 3, the first with tags. -/
def findCoordinatorV3 : Redirector :=
  ⟨.findCoordinator, 3, FindCoordinatorResponse.schema 3, rfl⟩

/-- The coordinator is broker 1, on host `b`. -/
def coordinatorB : Bytes :=
  [0, 0, 0, 0, 0, 0, 0, 0, 0, 0, 1, 2, 98, 0, 0, 35, 132, 0]

/-- The header has no tags, but spells out their number in two bytes. A frame that ends within the
header is refused. -/
theorem applyFrame_outcome_coordinatorB :
    findCoordinatorV3.observeFrame knowsOne.map ([0, 0, 0, 7, 0x80, 0x00] ++ coordinatorB) =
        (.ok ([0, 0, 0, 7, 0x00] ++
            [0, 0, 0, 0, 0, 0, 0, 0, 0, 0, 1, 6, 112, 114, 111, 120, 121, 0, 0, 39, 108, 0]),
          [⟨"b", 9092⟩]) ∧
      findCoordinatorV3.observeFrame knowsOne.map [0, 0, 0, 7, 0x80] =
        (.error .insufficientData, []) := by
  obtain ⟨-, -, hread⟩ := applyFrame_outcome (recording knowsOne.map) knowsOne.map
    findCoordinatorV3 ([0, 0, 0, 7, 0x80, 0x00] ++ coordinatorB)
  obtain ⟨-, hfail, -⟩ := applyFrame_outcome (recording knowsOne.map) knowsOne.map
    findCoordinatorV3 [0, 0, 0, 7, 0x80]
  obtain ⟨original, front, -, hencode, -, -, -, hout⟩ := hread ⟨7, {}⟩ coordinatorB rfl
  have hfront : (ResponseHeader.write 1 ⟨7, {}⟩).encode = .ok [0, 0, 0, 7, 0x00] := rfl
  obtain rfl := Except.ok.inj (hfront.symm.trans hencode)
  exact ⟨(hout _ rfl).1, (hfail .insufficientData rfl).2⟩

end Redirector

end KafkaWire
