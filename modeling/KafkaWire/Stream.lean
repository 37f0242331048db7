import KafkaWire.Wire.Output
import KafkaWire.Wire.Reader

/-!
# Frames on byte streams

Requests and responses travel as frames: a 32-bit length and that many bytes. Frames are taken
off a stream whole, length included, so that they can be inspected and passed on as they are.

## Main definitions

* `Stream.wrap` — a payload as a frame
* `Stream.readFrame`, `Stream.readFrames` — frames off the front of a stream
* `Stream.Writer`, `Stream.Writer.writeFrame` — frames onto a stream that may fail

## Main results

* `Stream.length_readFrame_lt` — a frame that is read is consumed
-/

namespace KafkaWire

namespace Stream

/-- The payload behind its length. -/
def wrap (payload : Bytes) : Except Error Bytes :=
  if payload.length < 0x80000000 then .ok (toBigEndian 4 payload.length ++ payload)
  else .error (.frameTooLarge payload.length 0x7fffffff)

/-- The number that the first four bytes announce as the size of a frame. -/
def announcedSize (input : Bytes) : Int :=
  (UInt32.ofNat (ofBigEndian (input.take 4))).toInt32.toInt

/-- Takes a frame of at most `max` bytes off the front of a stream: the frame with its length, or
an error, and what is left of the stream. The announced size is judged before any byte of the
payload is read; a stream that ends too early is used up. -/
def readFrame (max : Nat) (input : Bytes) : Except Error Bytes × Bytes :=
  if hasAtLeast 4 input then
    let size := announcedSize input
    if size < 0 ∨ max < size then (.error (.frameTooLarge size max), input.drop 4)
    else if hasAtLeast size.toNat (input.drop 4) then
      (.ok (input.take (4 + size.toNat)), input.drop (4 + size.toNat))
    else (.error (.stream .unexpectedEof), [])
  else (.error (.stream .unexpectedEof), [])

theorem length_readFrame_lt {max : Nat} {input frame rest : Bytes}
    (h : readFrame max input = (.ok frame, rest)) : rest.length < input.length := by
  simp only [readFrame] at h
  split at h
  · rename_i h4
    have h4 := hasAtLeast_iff.1 h4
    split at h
    · cases h
    · split at h
      · cases h
        rw [List.length_drop]
        omega
      · cases h
  · cases h

/-- All frames at the front of a stream, and the error that ends them. -/
def readFrames (max : Nat) (input : Bytes) : List Bytes × Error :=
  match h : readFrame max input with
  | (.error e, _) => ([], e)
  | (.ok frame, rest) =>
    have := length_readFrame_lt h
    let (frames, e) := readFrames max rest
    (frame :: frames, e)
termination_by input.length

/-! ### Writing -/

/-- A stream that is written to. -/
structure Writer where
  /-- What it has taken so far. -/
  accepted : Bytes := []
  /-- How many bytes it takes in all, unless there is no limit. -/
  room : Option Nat := none
  /-- How a write fails that finds no room. -/
  writeFault : StreamFault := .writeZero
  /-- How flushing fails, if it does. -/
  flushFault : Option StreamFault := none
  deriving DecidableEq, Repr

namespace Writer

/-- Writes all bytes, or as many as there is room for. -/
def write (w : Writer) (bs : Bytes) : Except Error Unit × Writer :=
  match w.room with
  | none => (.ok (), { w with accepted := w.accepted ++ bs })
  | some room =>
    let free := room - w.accepted.length
    if bs.length ≤ free then (.ok (), { w with accepted := w.accepted ++ bs })
    else (.error (.stream w.writeFault), { w with accepted := w.accepted ++ bs.take free })

/-- Hands on what was written. -/
def flush (w : Writer) : Except Error Unit :=
  match w.flushFault with
  | some fault => .error (.stream fault)
  | none => .ok ()

/-- Writes a payload as a frame and flushes. -/
def writeFrame (w : Writer) (payload : Bytes) : Except Error Unit × Writer :=
  match wrap payload with
  | .error e => (.error e, w)
  | .ok frame =>
    match w.write frame with
    | (.error e, w) => (.error e, w)
    | (.ok (), w) => (w.flush, w)

end Writer

end Stream

end KafkaWire
