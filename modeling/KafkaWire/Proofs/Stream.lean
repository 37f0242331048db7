import KafkaWire.Proofs.Wire.Exact
import KafkaWire.Stream

/-!
# What a stream consists of

A stream of frames says itself where each frame ends, and so it can be cut into frames whatever
they hold. What is left over behind the last of them is one of two things. Either **the stream ends
within a frame**, in its size or in the bytes that the size announces, or the next frame is of **an
inadmissible size**, and then no byte behind the size is of interest.

Every stream is of this form, and reading it frame by frame finds the frames in order and stops
with the error that belongs to the rest.

## Main definitions

* `Stream.IsFrame` — a size and that many bytes
* `Stream.EndsWithin`, `Stream.IsRefused` — the two things that may be left over
* `Stream.readMany` — some calls in a row

## Main results

* `Stream.isFrame_of_wrap`, `Stream.exists_payload` — what is wrapped is a frame, and conversely
* `Stream.readFrame_append` — a frame at the front is taken
* `Stream.readFrame_eq_ok`, `Stream.readFrame_eq_error` — and nothing else is
* `Stream.readMany_append`, `Stream.readFrames_append` — so are frames in a row
* `Stream.exists_frames` — every stream consists of frames and a rest
-/

namespace KafkaWire

namespace Stream

/-- A frame of at most `max` bytes behind the size: a size and that many bytes. -/
structure IsFrame (max : Nat) (frame : Bytes) : Prop where
  four_le : 4 ≤ frame.length
  size_eq : announcedSize frame = (frame.length - 4 : Nat)
  size_le : frame.length - 4 ≤ max

/-- The stream ends within a frame. Its size is cut short, or it is admissible and there are fewer
bytes behind it. -/
def EndsWithin (max : Nat) (tail : Bytes) : Prop :=
  tail.length < 4 ∨ 0 ≤ announcedSize tail ∧ announcedSize tail ≤ max ∧
    tail.length < announcedSize tail + 4

/-- The stream goes on with a size that is negative or too large. -/
structure IsRefused (max : Nat) (tail : Bytes) : Prop where
  four_le : 4 ≤ tail.length
  inadmissible : announcedSize tail < 0 ∨ max < announcedSize tail

instance (max : Nat) (frame : Bytes) : Decidable (IsFrame max frame) :=
  decidable_of_iff (4 ≤ frame.length ∧ announcedSize frame = (frame.length - 4 : Nat) ∧
      frame.length - 4 ≤ max)
    ⟨fun h => ⟨h.1, h.2.1, h.2.2⟩, fun h => ⟨h.four_le, h.size_eq, h.size_le⟩⟩

instance (max : Nat) (tail : Bytes) : Decidable (EndsWithin max tail) :=
  inferInstanceAs (Decidable (_ ∨ _))

instance (max : Nat) (tail : Bytes) : Decidable (IsRefused max tail) :=
  decidable_of_iff (4 ≤ tail.length ∧ (announcedSize tail < 0 ∨ max < announcedSize tail))
    ⟨fun h => ⟨h.1, h.2⟩, fun h => ⟨h.four_le, h.inadmissible⟩⟩

variable {max : Nat} {frame input tail rest : Bytes}

/-! ### Sizes -/

/-- A size of 31 bits is announced as it is. -/
theorem announcedSize_toBigEndian {n : Nat} (h : n < 0x80000000) (rest : Bytes) :
    announcedSize (toBigEndian 4 n ++ rest) = n := by
  have hfits : n % byteWeight 4 = n := Nat.mod_eq_of_lt (Nat.lt_trans h (by decide))
  have hsigned : (UInt32.ofNat n).toInt32 = Int32.ofNat n := rfl
  rw [announcedSize, List.take_left' (length_toBigEndian 4 n), ofBigEndian_toBigEndian, hfits,
    hsigned, Int32.toInt_ofNat_of_lt h]

theorem announcedSize_int32 (size : Int32) (rest : Bytes) :
    announcedSize ((Chunk.int32 size).bytes ++ rest) = size.toInt := by
  have hbits : size.toUInt32.toNat % byteWeight 4 = size.toUInt32.toNat :=
    Nat.mod_eq_of_lt size.toUInt32.toNat_lt
  rw [announcedSize, Chunk.bytes, List.take_left' (length_toBigEndian 4 _),
    ofBigEndian_toBigEndian, hbits, UInt32.ofNat_toNat, Int32.toInt32_toUInt32]

/-- Four bytes are there exactly if they announce something. -/
theorem exists_announced (h : 4 ≤ input.length) :
    ∃ size : Int32, input = (Chunk.int32 size).bytes ++ input.drop 4 := by
  have htake : Reader.take 4 input = .ok (input.take 4, input.drop 4) := by
    have hfront := Reader.take_append (List.length_take_of_le h) (input.drop 4)
    rwa [List.take_append_drop] at hfront
  exact ⟨_, Reader.int32_exact (Reader.bind_of_ok htake _)⟩

/-- What is wrapped stands behind its length. -/
theorem wrap_eq_ok {payload : Bytes} : wrap payload = .ok frame ↔
    payload.length < 0x80000000 ∧ frame = toBigEndian 4 payload.length ++ payload := by
  rw [wrap]
  split
  · rename_i hshort
    simp [hshort, eq_comm]
  · rename_i hlong
    simp [hlong]

theorem length_of_wrap {payload : Bytes} (h : wrap payload = .ok frame) :
    frame.length = payload.length + 4 := by
  rw [(wrap_eq_ok.mp h).2, List.length_append, length_toBigEndian, Nat.add_comm]

/-- What is wrapped is a frame. -/
theorem isFrame_of_wrap {payload : Bytes} (h : wrap payload = .ok frame)
    (hle : payload.length ≤ max) : IsFrame max frame := by
  have hlength := length_of_wrap h
  obtain ⟨hshort, rfl⟩ := wrap_eq_ok.mp h
  refine ⟨by omega, ?_, by omega⟩
  rw [announcedSize_toBigEndian hshort, hlength, Nat.add_sub_cancel]

/-- **A frame is something wrapped**: its first four bytes are the length of the others. -/
theorem exists_payload (h : IsFrame max frame) : ∃ payload, payload.length ≤ max ∧
    payload.length < 0x80000000 ∧ frame = toBigEndian 4 payload.length ++ payload := by
  have hfour := h.four_le
  obtain ⟨size, hsize⟩ := exists_announced hfour
  have hlength : (frame.drop 4).length = frame.length - 4 := List.length_drop
  have hannounced : size.toInt = ((frame.drop 4).length : Nat) := by
    rw [hlength, ← h.size_eq, hsize, announcedSize_int32]
  have hshort : (frame.drop 4).length < 0x80000000 := by
    have hlt := size.toInt_lt
    omega
  have hbits : size = Int32.ofNat (frame.drop 4).length := by
    apply Int32.toInt.inj
    rw [hannounced, Int32.toInt_ofNat_of_lt hshort]
  refine ⟨frame.drop 4, hlength ▸ h.size_le, hshort, ?_⟩
  rw [← Chunk.bytes_int32_ofNat hshort, ← hbits]
  exact hsize

/-! ### One frame -/

/-- The size is announced by the first four bytes. -/
theorem announcedSize_append (h : 4 ≤ frame.length) (rest : Bytes) :
    announcedSize (frame ++ rest) = announcedSize frame := by
  rw [announcedSize, announcedSize, List.take_append_of_le_length h]

/-- **A frame at the front of a stream is taken**, and exactly that frame. -/
theorem readFrame_append (h : IsFrame max frame) (rest : Bytes) :
    readFrame max (frame ++ rest) = (.ok frame, rest) := by
  have hfour := h.four_le
  have hle := h.size_le
  have hsize := (announcedSize_append hfour rest).trans h.size_eq
  have hlength : 4 + (frame.length - 4) = frame.length := by omega
  have henough : hasAtLeast 4 (frame ++ rest) = true := by
    rw [hasAtLeast_iff, List.length_append]
    omega
  have hadmissible : ¬ (((frame.length - 4 : Nat) : Int) < 0 ∨
      (max : Int) < (frame.length - 4 : Nat)) := by
    omega
  have hcomplete : hasAtLeast (frame.length - 4) ((frame ++ rest).drop 4) = true := by
    rw [hasAtLeast_iff, List.length_drop, List.length_append]
    omega
  simp only [readFrame, henough, if_true, hsize, hadmissible, if_false, Int.toNat_natCast,
    hcomplete, hlength, List.take_left, List.drop_left]

/-- A stream that ends within a frame is used up. -/
theorem readFrame_of_endsWithin (h : EndsWithin max tail) :
    readFrame max tail = (.error (.stream .unexpectedEof), []) := by
  by_cases hfour : 4 ≤ tail.length
  · obtain ⟨hnonneg, hmax, hshort⟩ := h.resolve_left (Nat.not_lt.mpr hfour)
    have henough : hasAtLeast 4 tail = true := hasAtLeast_iff.mpr hfour
    have hadmissible : ¬ (announcedSize tail < 0 ∨ (max : Int) < announcedSize tail) := by omega
    have hincomplete : ¬ hasAtLeast (announcedSize tail).toNat (tail.drop 4) = true := by
      rw [hasAtLeast_iff, List.length_drop]
      omega
    simp only [readFrame, henough, if_true, hadmissible, if_false]
    rw [if_neg hincomplete]
  · rw [readFrame, if_neg (mt hasAtLeast_iff.mp hfour)]

/-- An inadmissible size is refused for what it is. -/
theorem readFrame_of_isRefused (h : IsRefused max tail) :
    readFrame max tail = (.error (.frameTooLarge (announcedSize tail) max), tail.drop 4) := by
  have henough : hasAtLeast 4 tail = true := hasAtLeast_iff.mpr h.four_le
  simp only [readFrame, henough, if_true, h.inadmissible]

/-- **What a stream may begin with.** -/
theorem frame_or_rest (max : Nat) (input : Bytes) :
    (∃ frame rest, IsFrame max frame ∧ input = frame ++ rest) ∨ EndsWithin max input ∨
      IsRefused max input := by
  by_cases hfour : 4 ≤ input.length
  · by_cases hsize : announcedSize input < 0 ∨ (max : Int) < announcedSize input
    · exact .inr (.inr ⟨hfour, hsize⟩)
    · obtain ⟨size, hnat⟩ := Int.eq_ofNat_of_zero_le (by omega : 0 ≤ announcedSize input)
      by_cases hshort : input.length < size + 4
      · exact .inr (.inl (.inr (by omega)))
      · have hlength : (input.take (size + 4)).length = size + 4 :=
          List.length_take_of_le (by omega)
        have hsame : announcedSize (input.take (size + 4)) = announcedSize input := by
          have hfront_four : 4 ≤ (input.take (size + 4)).length := by omega
          have hfront := announcedSize_append hfront_four (input.drop (size + 4))
          rw [List.take_append_drop] at hfront
          exact hfront.symm
        refine .inl ⟨input.take (size + 4), input.drop (size + 4), ⟨?_, ?_, ?_⟩,
          (List.take_append_drop _ _).symm⟩
        · omega
        · rw [hsame, hlength, hnat]
          omega
        · omega
  · exact .inr (.inl (.inl (Nat.lt_of_not_le hfour)))

/-- **What is taken off a stream is the frame that it begins with.** -/
theorem readFrame_eq_ok : readFrame max input = (.ok frame, rest) ↔
    IsFrame max frame ∧ input = frame ++ rest := by
  constructor
  · intro h
    rcases frame_or_rest max input with ⟨frame', rest', hframe, rfl⟩ | hends | hrefused
    · rw [readFrame_append hframe] at h
      cases h
      exact ⟨hframe, rfl⟩
    · rw [readFrame_of_endsWithin hends] at h
      cases h
    · rw [readFrame_of_isRefused hrefused] at h
      cases h
  · rintro ⟨hframe, rfl⟩
    exact readFrame_append hframe rest

/-- **The two errors**, each of which says what the stream goes on with. -/
theorem readFrame_eq_error {e : Error} : readFrame max input = (.error e, rest) ↔
    (IsRefused max input ∧ e = .frameTooLarge (announcedSize input) max ∧ rest = input.drop 4) ∨
      (EndsWithin max input ∧ e = .stream .unexpectedEof ∧ rest = []) := by
  constructor
  · intro h
    rcases frame_or_rest max input with ⟨frame', rest', hframe, rfl⟩ | hends | hrefused
    · rw [readFrame_append hframe] at h
      cases h
    · rw [readFrame_of_endsWithin hends] at h
      cases h
      exact .inr ⟨hends, rfl, rfl⟩
    · rw [readFrame_of_isRefused hrefused] at h
      cases h
      exact .inl ⟨hrefused, rfl, rfl⟩
  · rintro (⟨hrefused, rfl, rfl⟩ | ⟨hends, rfl, rfl⟩)
    · exact readFrame_of_isRefused hrefused
    · exact readFrame_of_endsWithin hends

/-! ### Frames in a row -/

/-- What some calls in a row return, and what they leave of the stream. -/
def readMany (max : Nat) : Nat → Bytes → List (Except Error Bytes) × Bytes
  | 0, input => ([], input)
  | calls + 1, input =>
    let (result, rest) := readFrame max input
    let (results, left) := readMany max calls rest
    (result :: results, left)

/-- **Each call takes the next frame**, and no call takes more than that. -/
theorem readMany_append {frames : List Bytes} (h : ∀ frame ∈ frames, IsFrame max frame)
    (tail : Bytes) :
    readMany max frames.length (frames.flatten ++ tail) = (frames.map .ok, tail) := by
  induction frames with
  | nil => rfl
  | cons frame frames ih =>
    have hframe := readFrame_append (h frame List.mem_cons_self) (frames.flatten ++ tail)
    have hrest := ih fun f hf => h f (List.mem_cons_of_mem frame hf)
    rw [List.flatten_cons, List.append_assoc, List.length_cons, readMany, hframe]
    simp only [hrest, List.map_cons]

theorem readFrames_of_ok (h : readFrame max input = (.ok frame, rest)) :
    readFrames max input = (frame :: (readFrames max rest).1, (readFrames max rest).2) := by
  rw [readFrames]
  split
  · rename_i e _ herror
    rw [h] at herror
    cases herror
  · rename_i frame' rest' hok
    rw [h] at hok
    cases hok
    rfl

theorem readFrames_of_error {e : Error} (h : readFrame max input = (.error e, rest)) :
    readFrames max input = ([], e) := by
  rw [readFrames]
  split
  · rename_i e' _ herror
    rw [h] at herror
    cases herror
    rfl
  · rename_i frame' rest' hok
    rw [h] at hok
    cases hok

/-- **Frames in a row are found in order**, and then what is behind them. -/
theorem readFrames_append {frames : List Bytes} (h : ∀ frame ∈ frames, IsFrame max frame)
    (tail : Bytes) : readFrames max (frames.flatten ++ tail) =
      (frames ++ (readFrames max tail).1, (readFrames max tail).2) := by
  induction frames with
  | nil => rfl
  | cons frame frames ih =>
    have hframe := readFrame_append (h frame List.mem_cons_self) (frames.flatten ++ tail)
    rw [List.flatten_cons, List.append_assoc, readFrames_of_ok hframe,
      ih fun f hf => h f (List.mem_cons_of_mem frame hf)]
    rfl

/-- **Every stream consists of frames and a rest** that is none. -/
theorem exists_frames (max : Nat) (input : Bytes) : ∃ (frames : List Bytes) (tail : Bytes),
    input = frames.flatten ++ tail ∧ (∀ frame ∈ frames, IsFrame max frame) ∧
      (EndsWithin max tail ∨ IsRefused max tail) := by
  induction hlength : input.length using Nat.strongRecOn generalizing input with
  | ind n ih =>
    rcases frame_or_rest max input with ⟨frame, rest, hframe, rfl⟩ | hrest
    · have hfour := hframe.four_le
      rw [List.length_append] at hlength
      obtain ⟨frames, tail, rfl, hframes, htail⟩ := ih rest.length (by omega) rest rfl
      refine ⟨frame :: frames, tail, by simp, ?_, htail⟩
      exact List.forall_mem_cons.mpr ⟨hframe, hframes⟩
    · exact ⟨[], input, rfl, List.forall_mem_nil _, hrest⟩

end Stream

end KafkaWire
