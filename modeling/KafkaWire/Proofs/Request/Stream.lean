import KafkaWire.Proofs.Refusal
import KafkaWire.Proofs.Stream

/-!
# Frames off a stream

The length of a frame is judged twice. Taking a frame off a stream goes by the size it announces,
since nothing else says where the frame ends, and decoding the frame compares the same four bytes
with what it is given. The first judgement makes the second one superfluous, as long as the four
bytes are kept in front of the frame and are those that were read.

The first judgement is the only one that matters to the frames behind. A stream is never out of step
unless a size is refused: whatever a frame holds, the next call begins where it ends.

## Main results

* `Request.decode_ne_frameLength` — a frame off a stream is as long as it declares
* `Stream.readFrame_outcome` — what calls return, on streams of frames and on any stream
-/

namespace KafkaWire

namespace Request

/-- **A frame off a stream is as long as it declares.** -/
theorem decode_ne_frameLength {max : Nat} {frame : Bytes} (h : Stream.IsFrame max frame)
    (flexible : Bool) (declared : Int32) (received : Nat) :
    decode flexible frame ≠ .error (.packetDecoding (.frameLength declared received)) := by
  intro hdecode
  obtain ⟨head, after, hhead, hlength⟩ := length_ne_of_decode hdecode
  obtain ⟨-, rfl⟩ := FrameHead.reader_eq_ok.mp hhead
  have hannounced : Stream.announcedSize (head.bytes ++ after) = head.length.toInt := by
    rw [FrameHead.bytes, List.append_assoc, Stream.announcedSize_int32]
  have hsize : (head.bytes ++ after).length = after.length + 4 + 4 := by
    rw [List.length_append, FrameHead.length_bytes, FrameHead.size]
    omega
  have hdeclared := h.size_eq
  rw [hannounced, hsize, Nat.add_sub_cancel] at hdeclared
  exact hlength hdeclared

end Request

namespace Stream

variable {max : Nat} {input rest : Bytes}

/-- Payloads within both limits can be wrapped, all of them as frames. -/
theorem exists_frames_of_payloads {payloads : List Bytes}
    (h : ∀ payload ∈ payloads, payload.length ≤ max ∧ payload.length ≤ 0x7fffffff) :
    ∃ frames, payloads.mapM wrap = .ok frames ∧ frames.length = payloads.length ∧
      ∀ frame ∈ frames, IsFrame max frame := by
  induction payloads with
  | nil => exact ⟨[], rfl, rfl, List.forall_mem_nil _⟩
  | cons payload payloads ih =>
    obtain ⟨hpayload, hpayloads⟩ := List.forall_mem_cons.mp h
    obtain ⟨frames, hframes, hlength, hall⟩ := ih hpayloads
    have hwrap : wrap payload = .ok (toBigEndian 4 payload.length ++ payload) :=
      wrap_eq_ok.mpr ⟨by omega, rfl⟩
    refine ⟨(toBigEndian 4 payload.length ++ payload) :: frames, ?_, ?_, ?_⟩
    · rw [List.mapM_cons, hwrap, hframes]
      rfl
    · rw [List.length_cons, hlength, List.length_cons]
    · exact List.forall_mem_cons.mpr ⟨isFrame_of_wrap hwrap hpayload.1, hall⟩

/-- A size is refused exactly if it stands in front and is inadmissible. -/
theorem readFrame_eq_tooLarge {size : Int} {limit : Nat} :
    readFrame max input = (.error (.frameTooLarge size limit), rest) ↔
      limit = max ∧ (size < 0 ∨ max < size) ∧
        ∃ announced : Int32, announced.toInt = size ∧
          input = (Chunk.int32 announced).bytes ++ rest := by
  rw [readFrame_eq_error]
  constructor
  · rintro (⟨hrefused, he, rfl⟩ | ⟨-, he, -⟩)
    · cases he
      obtain ⟨announced, hinput⟩ := exists_announced hrefused.four_le
      refine ⟨rfl, hrefused.inadmissible, announced, ?_, hinput⟩
      rw [hinput, announcedSize_int32]
    · cases he
  · rintro ⟨rfl, hsize, announced, rfl, rfl⟩
    have hfour : (Chunk.int32 announced).bytes.length = 4 := Chunk.length_bytes _
    refine .inl ⟨⟨?_, ?_⟩, ?_, (List.drop_left' hfour).symm⟩
    · rw [List.length_append, hfour]
      omega
    · rwa [announcedSize_int32]
    · rw [announcedSize_int32]

/-- A stream ends too early exactly if it ends within its size or within what that announces. -/
theorem readFrame_eq_unexpectedEof :
    readFrame max input = (.error (.stream .unexpectedEof), rest) ↔
      rest = [] ∧ (input.length < 4 ∨ ∃ (announced : Int32) (payload : Bytes),
        input = (Chunk.int32 announced).bytes ++ payload ∧ 0 ≤ announced.toInt ∧
          announced.toInt ≤ max ∧ payload.length < announced.toInt) := by
  rw [readFrame_eq_error]
  constructor
  · rintro (⟨-, he, -⟩ | ⟨hends, -, rfl⟩)
    · cases he
    · refine ⟨rfl, ?_⟩
      by_cases hfour : 4 ≤ input.length
      · obtain ⟨hnonneg, hmax, hshort⟩ := hends.resolve_left (Nat.not_lt.mpr hfour)
        obtain ⟨announced, hinput⟩ := exists_announced hfour
        have hsize : announcedSize input = announced.toInt := by
          rw [hinput, announcedSize_int32]
        rw [hsize] at hnonneg hmax hshort
        refine .inr ⟨announced, input.drop 4, hinput, hnonneg, hmax, ?_⟩
        rw [List.length_drop]
        omega
      · exact .inl (Nat.lt_of_not_le hfour)
  · rintro ⟨rfl, hshort | ⟨announced, payload, rfl, hnonneg, hmax, hshort⟩⟩
    · exact .inr ⟨.inl hshort, rfl, rfl⟩
    · refine .inr ⟨.inr ?_, rfl, rfl⟩
      have hfour : (Chunk.int32 announced).bytes.length = 4 := Chunk.length_bytes _
      rw [announcedSize_int32, List.length_append, hfour]
      omega

/-- **What calls return.**

On payloads that were wrapped one after another, within the limit and that of the length field, as
many calls return these frames in order and leave whatever stands behind them.

On any stream, a call returns a frame exactly if the stream begins with that frame, which is the
big-endian number of its payload's bytes and an admissible payload, and it takes the frame alone. It
refuses a size exactly if four bytes are there that announce a negative one or one above the limit,
and it finds the end of the stream exactly if there are fewer than four bytes, or fewer bytes behind
an admissible size than that. It fails in no other way.

A frame that was returned is never found to be of another length than it declares when it is
decoded, with either header. -/
theorem readFrame_outcome (max : Nat) :
    (∀ payloads : List Bytes,
      (∀ payload ∈ payloads, payload.length ≤ max ∧ payload.length ≤ 0x7fffffff) →
      ∃ frames, payloads.mapM wrap = .ok frames ∧ ∀ tail,
        readMany max payloads.length (frames.flatten ++ tail) = (frames.map .ok, tail)) ∧
    (∀ input frame rest, readFrame max input = (.ok frame, rest) ↔
      input = frame ++ rest ∧ ∃ payload, frame = toBigEndian 4 payload.length ++ payload ∧
        payload.length ≤ max ∧ payload.length ≤ 0x7fffffff) ∧
    (∀ input size limit rest, readFrame max input = (.error (.frameTooLarge size limit), rest) ↔
      limit = max ∧ (size < 0 ∨ max < size) ∧ ∃ announced : Int32, announced.toInt = size ∧
        input = (Chunk.int32 announced).bytes ++ rest) ∧
    (∀ input rest, readFrame max input = (.error (.stream .unexpectedEof), rest) ↔
      rest = [] ∧ (input.length < 4 ∨ ∃ (announced : Int32) (payload : Bytes),
        input = (Chunk.int32 announced).bytes ++ payload ∧ 0 ≤ announced.toInt ∧
          announced.toInt ≤ max ∧ payload.length < announced.toInt)) ∧
    (∀ input e rest, readFrame max input = (.error e, rest) →
      (∃ size, e = .frameTooLarge size max) ∨ e = .stream .unexpectedEof) ∧
    (∀ input frame rest, readFrame max input = (.ok frame, rest) →
      ∀ flexible declared received, Request.decode flexible frame ≠
        .error (.packetDecoding (.frameLength declared received))) := by
  refine ⟨?_, ?_, fun _ _ _ _ => readFrame_eq_tooLarge, fun _ _ => readFrame_eq_unexpectedEof,
    ?_, ?_⟩
  · intro payloads h
    obtain ⟨frames, hframes, hlength, hall⟩ := exists_frames_of_payloads h
    exact ⟨frames, hframes, fun tail => hlength ▸ readMany_append hall tail⟩
  · intro input frame rest
    rw [readFrame_eq_ok]
    constructor
    · rintro ⟨hframe, hinput⟩
      obtain ⟨payload, hmax, hshort, hpayload⟩ := exists_payload hframe
      exact ⟨hinput, payload, hpayload, hmax, by omega⟩
    · rintro ⟨hinput, payload, hpayload, hmax, hshort⟩
      exact ⟨isFrame_of_wrap (wrap_eq_ok.mpr ⟨by omega, hpayload⟩) hmax, hinput⟩
  · intro input e rest h
    rcases readFrame_eq_error.mp h with ⟨-, he, -⟩ | ⟨-, he, -⟩
    · exact .inl ⟨_, he⟩
    · exact .inr he
  · intro input frame rest h
    exact Request.decode_ne_frameLength (readFrame_eq_ok.mp h).1

/-- Two frames are taken, one of them empty, and then the stream ends within a third or announces
one that is too large. -/
theorem readFrame_outcome_empty :
    readMany 2 2 ([0, 0, 0, 2, 9, 8, 0, 0, 0, 0] ++ [0, 0, 0]) =
        ([.ok [0, 0, 0, 2, 9, 8], .ok [0, 0, 0, 0]], [0, 0, 0]) ∧
      readFrame 2 [0, 0, 0] = (.error (.stream .unexpectedEof), []) ∧
      readFrame 2 [0, 0, 0, 3, 7] = (.error (.frameTooLarge 3 2), [7]) ∧
      readFrame 2 [0xff, 0xff, 0xff, 0xff] = (.error (.frameTooLarge (-1) 2), []) := by
  obtain ⟨taken, -, refused, ended, -, -⟩ := readFrame_outcome 2
  obtain ⟨frames, hframes, hreads⟩ := taken [[9, 8], []] (by decide)
  obtain rfl : [[0, 0, 0, 2, 9, 8], [0, 0, 0, 0]] = frames := Except.ok.inj hframes
  refine ⟨hreads [0, 0, 0], ?_, ?_, ?_⟩
  · exact (ended _ _).mpr ⟨rfl, .inl (by decide)⟩
  · exact (refused _ _ _ _).mpr ⟨rfl, .inr (by decide), 3, rfl, rfl⟩
  · exact (refused _ _ _ _).mpr ⟨rfl, .inl (by decide), -1, rfl, rfl⟩

end Stream

end KafkaWire
