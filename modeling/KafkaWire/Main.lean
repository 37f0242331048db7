import KafkaWire.Inspection

/-!
# The frame inspection tool

`frame-inspect <frames-file> [config.json]` prints what the request frames in a file touch. Without
a settings document the settings are taken from the environment.

This module holds the input and output of the tool; what it reports is decided in
`KafkaWire.Inspection`.
-/

namespace KafkaWire

/-- A file with its contents, or with why it cannot be read. -/
def readInput {α : Type} (name : String) (read : IO α) : IO (Inspection.File α) := do
  try
    return ⟨name, .ok (← read)⟩
  catch
    | .noFileOrDirectory .. => return ⟨name, .error Inspection.missing⟩
    | e => return ⟨name, .error (toString e)⟩

end KafkaWire

open KafkaWire in
/-- Runs the tool on its arguments and prints its report. -/
def main (args : List String) : IO UInt32 := do
  let frames ← args[0]?.mapM fun name =>
    readInput name do return (← IO.FS.readBinFile name).data.toList
  let document ← args[1]?.mapM fun name => readInput name (IO.FS.readFile name)
  let mut entries : List (String × String) := []
  for key in [Settings.requestSizeVariable, Settings.responseSizeVariable,
      Settings.mappingsVariable] do
    if let some value := ← IO.getEnv key then
      entries := (key, value) :: entries
  let given := entries
  let report := Inspection.run frames document fun key => given.lookup key
  for line in report.lines do
    IO.println s!"{line.level.name} {line.text}"
  return if report.success then 0 else 1
