import KafkaWire.Request.Frame
import KafkaWire.Settings
import KafkaWire.Stream

/-!
# Inspecting recorded frames

A file of request frames is read frame by frame, and for each frame a line tells which topics and
consumer groups the request touches, or why that cannot be told. A frame that cannot be decoded
affects no other; only a frame of inadmissible size ends the inspection early.

The lines are those of the tool itself. Decoders and streams log events of their own while they
work, such as an error for each request that cannot be decoded and for a frame that is refused.
These events stand between the lines in the log of the program and are not modelled. So the warning
for a frame that cannot be decoded need not be the only thing that the log has about it.

## Main definitions

* `Inspection.describeFrame` — the line for one frame
* `Inspection.inspect` — the report on a file
* `Inspection.run` — the report of the tool, whose files may be missing or faulty
-/

namespace KafkaWire

namespace Inspection

/-- How serious a line is. -/
inductive Level
  | info
  | warn
  | error
  deriving DecidableEq, Repr

/-- The name of a level. -/
def Level.name : Level → String
  | .info => "INFO"
  | .warn => "WARN"
  | .error => "ERROR"

/-- A line of a report. -/
structure Line where
  level : Level
  text : String
  deriving DecidableEq, Repr

/-- What is reported, and whether all went well. -/
structure Report where
  lines : List Line
  success : Bool
  deriving DecidableEq, Repr

/-- The names that a request touches. -/
def summary (r : Request) : String :=
  let groups := " groups " ++ Text.quoteList r.body.groups
  if r.body.allTopics then "all topics" ++ groups
  else "topics " ++ Text.quoteList r.body.topics ++ groups

/-- How the api key of a request is shown. -/
def showKey (code : Int16) : String :=
  match ApiKey.ofCode? code with
  | some key => "Some(" ++ key.name ++ ")"
  | none => "None"

/-- The request in a frame, decoded with the header version that its head asks for. -/
def decodeFrame (head : FrameHead) (frame : Bytes) : Except Error Request := do
  let version ← head.requestHeaderVersion
  Request.decode (version ≠ 1) frame

/-- The line of the tool for the frame with that number. -/
def describeFrame (number : Nat) (frame : Bytes) : Line :=
  match FrameHead.peek frame with
  | .error e => ⟨.warn, s!"Frame {number}: unreadable header: {e.message}"⟩
  | .ok head =>
    match decodeFrame head frame with
    | .ok request =>
      ⟨.info, s!"Frame {number}: " ++ showKey head.apiKey ++ s!" v{head.apiVersion} " ++
        s!"correlation id {request.correlationId} " ++ summary request⟩
    | .error e =>
      ⟨.warn, s!"Frame {number}: skipping api key {head.apiKey} version {head.apiVersion}: " ++
        e.message⟩

/-- The lines for frames, of which the first has that number. -/
def describeFrames : (number : Nat) → List Bytes → List Line
  | _, [] => []
  | number, frame :: frames => describeFrame number frame :: describeFrames (number + 1) frames

/-- The report on a file of frames. A file that ends within a frame has simply ended. -/
def inspect (settings : Settings) (input : Bytes) : Report :=
  let (frames, ending) := Stream.readFrames settings.maxRequestSize input
  let lines := describeFrames 1 frames
  if ending = .stream .unexpectedEof then
    ⟨lines ++ [⟨.info, s!"Inspected {frames.length} frames"⟩], true⟩
  else
    ⟨lines ++ [⟨.error, s!"Stopping at frame {frames.length}: " ++ ending.message⟩], false⟩

/-! ### The tool -/

/-- A file that was asked for: its name, and its contents or why it cannot be read. -/
structure File (α : Type) where
  name : String
  contents : Except String α

/-- Why a file that does not exist cannot be read. -/
def missing : String :=
  "Os \x7b code: 2, kind: NotFound, message: \"No such file or directory\" \x7d"

/-- A report that an error prevents. -/
def refuse (text : String) : Report := ⟨[⟨.error, text⟩], false⟩

/-- The report of the tool on a file of frames, with settings from a document or, if none is
given, from variables. -/
def run (frames : Option (File Bytes)) (document : Option (File String))
    (environment : String → Option String) : Report :=
  match frames with
  | none => refuse "usage: frame-inspect <frames-file> [config.json]"
  | some frames =>
    let settings : Except String Settings :=
      match document with
      | none => (Settings.ofVariables environment).mapError Error.message
      | some document =>
        match document.contents with
        | .error why => .error s!"Could not read {document.name}: {why}"
        | .ok text => (Settings.ofJson text).mapError Error.message
    match settings with
    | .error text => refuse text
    | .ok settings =>
      match frames.contents with
      | .error why => refuse s!"Could not open {frames.name}: {why}"
      | .ok input => inspect settings input

end Inspection

end KafkaWire
