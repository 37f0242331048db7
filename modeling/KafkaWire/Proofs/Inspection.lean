import KafkaWire.Inspection
import KafkaWire.Proofs.Request.Frame
import KafkaWire.Proofs.Stream

/-!
# What is reported of a recording

A recording is a file of frames, some of them requests that were encoded and some of them anything
at all, behind which the file may end within a further frame or go on with an inadmissible size.
Its report has **one line for each frame, in order, and the line depends on that frame alone**. So
a frame that makes no sense costs no other frame its line, and only an inadmissible size, after
which it is not known where the next frame begins, makes the inspection fail.

A request is reported as it would be read if its body were decoded alone. For this its frame must
be decoded with the header it was encoded with. The frame does not say whether there are tags in
its header. They are expected by key and version, so it is asked of a request that it has tags
exactly where they are expected.

Every file is a recording, since nothing is asked of the other frames.

All of this is about the lines of the tool. What decoders and streams log on their own account while
a recording is read, errors included, is not part of the report, and nothing is said of it.

## Main definitions

* `Request.Recorded` — requests that can be read from a recording
* `Inspection.Entry` — the frames of a recording
* `Inspection.requestLine` — how a request is reported
* `Inspection.Configured` — the settings that the tool finds

## Main results

* `FrameHead.requestHeaderVersion_of_body` — which header is expected
* `Inspection.describeFrame_of_recorded` — the line for a request
* `Inspection.exists_entries` — every file is a recording
* `Inspection.run_of_entries` — the report of the tool on a recording
-/

namespace KafkaWire

/-! ### Recorded requests -/

/-- The frame of a request whose header is the one that its key and version ask for, with arrays,
tag buffers and a size within the limits of reading. -/
structure Request.Recorded (max : Nat) (r : Request) (frame : Bytes) : Prop where
  encoded : r.encode = .ok frame
  header : ∀ length, FrameHead.requestHeaderVersion ⟨length, r.body.api.code, r.body.version⟩ =
    .ok (if r.headerTags.isSome then 2 else 1)
  tags : ∀ t ∈ r.headerTags, t.WithinLimits
  body : r.body.WithinLimits
  size_le : frame.length - 4 ≤ max

/-- **Tags are expected from the first flexible version on**, and in every supported version it is
known whether they are. -/
theorem FrameHead.requestHeaderVersion_of_body (length : Int32) (body : Body) :
    requestHeaderVersion ⟨length, body.api.code, body.version⟩ =
      .ok (if body.api.firstFlexible ≤ body.version then 2 else 1) := by
  have hversion : body.api.requireVersion body.version = .ok () := if_pos body.supported
  simp only [requestHeaderVersion, Api.flexibleVersion?, Api.ofCode_code, hversion, bind,
    Except.bind, pure, Except.pure]

namespace Request

variable {max : Nat} {r : Request} {frame : Bytes}

/-- What a request writes is what wrapping gives. -/
theorem exists_wrap_of_writes (h : r.write.Writes frame) :
    ∃ payload, Stream.wrap payload = .ok frame := by
  obtain ⟨payload, -, hshort, rfl⟩ := exists_of_writes h
  exact ⟨payload, Stream.wrap_eq_ok.mpr ⟨hshort, by rw [Chunk.bytes_int32_ofNat hshort]⟩⟩

theorem Recorded.isFrame (h : r.Recorded max frame) : Stream.IsFrame max frame := by
  obtain ⟨payload, hwrap⟩ := exists_wrap_of_writes (Output.encode_eq_ok.mp h.encoded)
  have hle := h.size_le
  rw [Stream.length_of_wrap hwrap, Nat.add_sub_cancel] at hle
  exact Stream.isFrame_of_wrap hwrap hle

/-- The body of a request that was encoded can be encoded and decoded alone. -/
theorem decode_body (encoded : r.encode = .ok frame) (limits : r.body.WithinLimits) :
    ∃ alone, r.body.encode = .ok alone ∧
      Body.decode r.body.api.code r.body.version alone = .ok r.body.normal := by
  obtain ⟨rest, hrest, -, -⟩ := exists_of_writes (Output.encode_eq_ok.mp encoded)
  obtain ⟨_, _, alone, -, -, halone, -⟩ := exists_of_writes_afterLength hrest
  have hbody : r.body.encode = .ok alone := Output.encode_eq_ok.mpr halone
  exact ⟨alone, hbody, Body.decode_encode hbody limits⟩

/-- **The head of a recorded frame** has the key and version of the request, whatever length. -/
theorem Recorded.exists_peek (h : r.Recorded max frame) :
    ∃ length, FrameHead.peek frame = .ok ⟨length, r.body.api.code, r.body.version⟩ := by
  have hwrites : r.write.Writes frame := Output.encode_eq_ok.mp h.encoded
  obtain ⟨head, after, hhead, -, hafter⟩ := exists_read_of_writes hwrites h.tags h.body
  obtain ⟨hkey, hversion⟩ := (of_readAfterHead hafter).1
  obtain ⟨length, key, version⟩ := head
  cases hkey
  cases hversion
  exact ⟨length, FrameHead.peek_eq_ok.mpr ⟨after, hhead⟩⟩

end Request

namespace Inspection

/-! ### Lines -/

/-- The line for the request with that number, of which `body` is the body. -/
def requestLine (number : Nat) (r : Request) (body : Body) : Line :=
  let names := if body.allTopics then "all topics" else "topics " ++ Text.quoteList body.topics
  ⟨.info, s!"Frame {number}: Some({body.api.key.name}) v{body.version} " ++
    s!"correlation id {r.correlationId} {names} groups {Text.quoteList body.groups}"⟩

/-- The key of a request that can be decoded has a name. -/
theorem showKey_code (api : Api) : showKey api.code = "Some(" ++ api.key.name ++ ")" := by
  rw [showKey, Api.code, ApiKey.ofCode?_code]

/-- What is reported of a request, in the parts it is put together from. -/
theorem requestLine_eq (number : Nat) (r : Request) : requestLine number r r.body =
    ⟨.info, s!"Frame {number}: " ++ showKey r.body.api.code ++ s!" v{r.body.version} " ++
      s!"correlation id {r.correlationId} " ++ summary r⟩ := by
  have hself (text : String) : toString text = text := rfl
  have hkey : (": Some(" : String) = ": " ++ "Some(" := rfl
  have hversion : (") v" : String) = ")" ++ " v" := rfl
  simp only [requestLine, showKey_code, summary, hself, hkey, hversion, String.append_assoc]
  split
  · rfl
  · simp only [String.append_assoc]

/-- The header that is chosen for a frame is the one that its request was encoded with. -/
theorem decodeFrame_of_recorded {max : Nat} {r : Request} {frame : Bytes}
    (h : r.Recorded max frame) (length : Int32) :
    decodeFrame ⟨length, r.body.api.code, r.body.version⟩ frame = .ok r.normal := by
  have hflexible : decide ((if r.headerTags.isSome then 2 else 1 : Int16) ≠ 1) =
      r.headerTags.isSome := by
    cases r.headerTags <;> rfl
  rw [decodeFrame, h.header length]
  show Request.decode (decide ((if r.headerTags.isSome then 2 else 1 : Int16) ≠ 1)) frame = _
  rw [hflexible]
  exact Request.decode_encode h.encoded h.tags h.body

/-- **The line for a recorded request** tells what its body says that is decoded alone. -/
theorem describeFrame_of_recorded {max : Nat} {r : Request} {frame : Bytes}
    (h : r.Recorded max frame) (number : Nat) :
    describeFrame number frame = requestLine number r r.body.normal := by
  obtain ⟨length, hpeek⟩ := h.exists_peek
  have hline : requestLine number r r.body.normal = requestLine number r.normal r.normal.body := rfl
  rw [hline, requestLine_eq]
  simp only [describeFrame, hpeek, decodeFrame_of_recorded h length]
  rfl

/-- The tool itself reports no error for a single frame. -/
theorem level_describeFrame (number : Nat) (frame : Bytes) :
    (describeFrame number frame).level ≠ .error := by
  rw [describeFrame]
  split
  · exact fun h => nomatch h
  · split
    · exact fun h => nomatch h
    · exact fun h => nomatch h

/-! ### Recordings -/

/-- A frame of a recording. -/
inductive Entry (max : Nat)
  /-- A request that was encoded. -/
  | request (r : Request) (frame : Bytes) (recorded : r.Recorded max frame)
  /-- Any bytes behind their number. -/
  | other (frame : Bytes) (isFrame : Stream.IsFrame max frame)

namespace Entry

variable {max : Nat}

/-- The bytes in the file. -/
def frame : Entry max → Bytes
  | .request _ frame _ => frame
  | .other frame _ => frame

/-- The line in the report. -/
def line (number : Nat) : Entry max → Line
  | .request r _ _ => requestLine number r r.body.normal
  | .other frame _ => describeFrame number frame

theorem isFrame_frame (entry : Entry max) : Stream.IsFrame max entry.frame := by
  cases entry with
  | request r frame recorded => exact recorded.isFrame
  | other frame isFrame => exact isFrame

theorem describeFrame_frame (number : Nat) (entry : Entry max) :
    describeFrame number entry.frame = entry.line number := by
  cases entry with
  | request r frame recorded => exact describeFrame_of_recorded recorded number
  | other frame isFrame => rfl

end Entry

/-- The lines for the frames of a recording, in order. -/
def lines {max : Nat} (entries : List (Entry max)) : List Line :=
  entries.mapIdx fun i entry => entry.line (i + 1)

/-- Each frame has its line, in order. -/
theorem describeFrames_eq {max : Nat} (number : Nat) (entries : List (Entry max)) :
    describeFrames number (entries.map Entry.frame) =
      entries.mapIdx fun i entry => entry.line (number + i) := by
  induction entries generalizing number with
  | nil => rfl
  | cons entry entries ih =>
    have hnext : (fun i (entry : Entry max) => entry.line (number + (i + 1))) =
        fun i entry => entry.line (number + 1 + i) := by
      funext i entry
      rw [Nat.add_assoc, Nat.add_comm 1 i]
    rw [List.map_cons, describeFrames, ih, List.mapIdx_cons, entry.describeFrame_frame, hnext]
    rfl

/-- Every file is a recording, of which nothing needs to be known. -/
theorem exists_entries (max : Nat) (input : Bytes) :
    ∃ (entries : List (Entry max)) (tail : Bytes),
      input = (entries.map Entry.frame).flatten ++ tail ∧
        (Stream.EndsWithin max tail ∨ Stream.IsRefused max tail) := by
  obtain ⟨frames, tail, rfl, hframes, htail⟩ := Stream.exists_frames max input
  refine ⟨frames.pmap Entry.other hframes, tail, ?_, htail⟩
  rw [List.map_pmap]
  simp [Entry.frame]

/-- The line that says why the inspection stops after so many frames. -/
def stop (number : Nat) (tail : Bytes) (max : Nat) : Line :=
  ⟨.error, s!"Stopping at frame {number}: " ++
    s!"frame of {Stream.announcedSize tail} bytes exceeds the maximum of {max}"⟩

section Report

variable {settings : Settings} (entries : List (Entry settings.maxRequestSize)) {tail : Bytes}

/-- The frames of a recording are found, and then whatever ends it. -/
theorem readFrames_entries {e : Error} {rest : Bytes}
    (h : Stream.readFrame settings.maxRequestSize tail = (.error e, rest)) :
    Stream.readFrames settings.maxRequestSize ((entries.map Entry.frame).flatten ++ tail) =
      (entries.map Entry.frame, e) := by
  have hframes : ∀ frame ∈ entries.map Entry.frame,
      Stream.IsFrame settings.maxRequestSize frame := by
    intro frame hmem
    obtain ⟨entry, -, rfl⟩ := List.mem_map.mp hmem
    exact entry.isFrame_frame
  rw [Stream.readFrames_append hframes, Stream.readFrames_of_error h, List.append_nil]

theorem describeFrames_entries : describeFrames 1 (entries.map Entry.frame) = lines entries := by
  rw [describeFrames_eq, lines]
  simp only [Nat.add_comm]

/-- A file that ends within a frame has simply ended. -/
theorem inspect_of_endsWithin (h : Stream.EndsWithin settings.maxRequestSize tail) :
    inspect settings ((entries.map Entry.frame).flatten ++ tail) =
      ⟨lines entries ++ [⟨.info, s!"Inspected {entries.length} frames"⟩], true⟩ := by
  rw [inspect, readFrames_entries entries (Stream.readFrame_of_endsWithin h)]
  simp only [describeFrames_entries, if_true, List.length_map]

/-- An inadmissible size is the end of the inspection, and its failure. -/
theorem inspect_of_isRefused (h : Stream.IsRefused settings.maxRequestSize tail) :
    inspect settings ((entries.map Entry.frame).flatten ++ tail) =
      ⟨lines entries ++ [stop entries.length tail settings.maxRequestSize], false⟩ := by
  rw [inspect, readFrames_entries entries (Stream.readFrame_of_isRefused h)]
  simp only [describeFrames_entries, List.length_map, reduceCtorEq, if_false]
  rfl

end Report

/-! ### The tool -/

/-- The settings that the tool finds, in a document or in variables. -/
inductive Configured (environment : String → Option String) :
    Option (File String) → Settings → Prop
  | lookup {settings : Settings} (h : Settings.ofVariables environment = .ok settings) :
    Configured environment none settings
  | document {settings : Settings} (name text : String)
    (h : Settings.ofJson text = .ok settings) :
    Configured environment (some ⟨name, .ok text⟩) settings

theorem run_eq_inspect {environment : String → Option String} {document : Option (File String)}
    {settings : Settings} (h : Configured environment document settings) (name : String)
    (input : Bytes) :
    run (some ⟨name, .ok input⟩) document environment = inspect settings input := by
  cases h with
  | lookup h =>
    have hsettings : (Settings.ofVariables environment).mapError Error.message = .ok settings := by
      rw [h]
      rfl
    simp only [run, hsettings]
  | document name text h =>
    have hsettings : (Settings.ofJson text).mapError Error.message = .ok settings := by
      rw [h]
      rfl
    simp only [run, hsettings]

/-- **The report of the tool on a recording.** Whatever the frames are, the report has a line for
each of them, in order; that of a request tells what its body says that is decoded alone. If the
file ends within a further frame, all went well. If it goes on with an inadmissible size, the same
lines are followed by the one that says so. No line of the tool for a frame is of the level of
errors. -/
theorem run_of_entries {environment : String → Option String} {document : Option (File String)}
    {settings : Settings} (configured : Configured environment document settings) (name : String)
    (entries : List (Entry settings.maxRequestSize)) (tail : Bytes) :
    let input := (entries.map Entry.frame).flatten ++ tail
    (Stream.EndsWithin settings.maxRequestSize tail →
      run (some ⟨name, .ok input⟩) document environment =
        ⟨lines entries ++ [⟨.info, s!"Inspected {entries.length} frames"⟩], true⟩) ∧
    (Stream.IsRefused settings.maxRequestSize tail →
      run (some ⟨name, .ok input⟩) document environment =
        ⟨lines entries ++ [stop entries.length tail settings.maxRequestSize], false⟩) ∧
    (∀ r frame, Request.Recorded settings.maxRequestSize r frame → ∃ alone,
      r.body.encode = .ok alone ∧
        Body.decode r.body.api.code r.body.version alone = .ok r.body.normal) ∧
    ∀ line ∈ lines entries, line.level ≠ .error := by
  intro input
  refine ⟨fun h => ?_, fun h => ?_, fun r frame recorded => ?_, ?_⟩
  · rw [run_eq_inspect configured, inspect_of_endsWithin entries h]
  · rw [run_eq_inspect configured, inspect_of_isRefused entries h]
  · exact Request.decode_body recorded.encoded recorded.body
  · intro line hmem
    obtain ⟨i, hi, rfl⟩ := List.mem_mapIdx.mp hmem
    rw [← Entry.describeFrame_frame]
    exact level_describeFrame _ _

/-- A metadata request for all topics, in a version whose header has no tags. -/
def allTopicsQuestion : Request where
  correlationId := 7
  clientId := none
  headerTags := none
  body := {
    api := .metadata
    version := 1
    layout := ({ topics := none } : Metadata.Request)
    supported := by decide }

/-- A request to delete a topic that is named by a quote, with tags in the header. -/
def quoteDeletion : Request where
  correlationId := -2
  clientId := some ""
  headerTags := some { fields := [⟨3, [7]⟩] }
  body := {
    api := .deleteTopics
    version := 5
    layout := ({ names := ["\""] } : DeleteTopics.Request)
    supported := by decide }

/-- Requests with either header and a frame too short for one, behind which the file ends within a
size or goes on with a negative one. -/
theorem run_of_entries_allTopicsQuestion :
    let question : Bytes := [0, 0, 0, 14, 0, 3, 0, 1, 0, 0, 0, 7, 255, 255, 255, 255, 255, 255]
    let deletion : Bytes := [0, 0, 0, 22, 0, 20, 0, 5, 255, 255, 255, 254, 0, 0, 1, 3, 1, 7, 2, 2,
      34, 0, 0, 0, 0, 0]
    let report (tail : Bytes) : Report :=
      run (some ⟨"frames", .ok (question ++ ([0, 0, 0, 2, 9, 9] ++ deletion) ++ tail)⟩) none
        fun _ => none
    let shown : List Line :=
      [⟨.info, "Frame 1: Some(Metadata) v1 correlation id 7 all topics groups []"⟩,
        ⟨.warn, "Frame 2: unreadable header: kafka: insufficient data to decode packet, " ++
          "more bytes expected"⟩,
        ⟨.info, "Frame 3: Some(DeleteTopics) v5 correlation id -2 topics [\"\\\"\"] groups []"⟩]
    report [0, 0, 0] = ⟨shown ++ [⟨.info, "Inspected 3 frames"⟩], true⟩ ∧
      report [255, 255, 255, 254, 7] = ⟨shown ++ [⟨.error, "Stopping at frame 3: " ++
        "frame of -2 bytes exceeds the maximum of 104857600"⟩], false⟩ := by
  intro question deletion report shown
  have configured : Configured (fun _ => none) none {} := .lookup rfl
  let entries : List (Entry 104857600) :=
    [.request allTopicsQuestion question ⟨rfl, fun _ => rfl, by decide, by decide, by decide⟩,
      .other [0, 0, 0, 2, 9, 9] (by decide),
      .request quoteDeletion deletion ⟨rfl, fun _ => rfl, by decide, by decide, by decide⟩]
  have hlines : lines entries = shown := by decide +kernel
  have hended : s!"Inspected {entries.length} frames" = "Inspected 3 frames" := by decide +kernel
  have hstop : stop 3 [255, 255, 255, 254, 7] 104857600 = ⟨.error, "Stopping at frame 3: " ++
      "frame of -2 bytes exceeds the maximum of 104857600"⟩ := by decide +kernel
  have hinput : (entries.map Entry.frame).flatten =
      question ++ ([0, 0, 0, 2, 9, 9] ++ deletion) := rfl
  obtain ⟨ended, -, -, -⟩ := run_of_entries configured "frames" entries [0, 0, 0]
  obtain ⟨-, stopped, -, -⟩ := run_of_entries configured "frames" entries [255, 255, 255, 254, 7]
  rw [hinput, hlines] at ended stopped
  rw [hended] at ended
  rw [← hstop]
  exact ⟨ended (by decide), stopped (by decide)⟩

end Inspection

end KafkaWire
