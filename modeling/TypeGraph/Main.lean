import TypeGraph.Command.Run
import TypeGraph.Text.Terminal

/-!
The command as a program: look at the places that the arguments name, run, and carry out what
the run says.
-/

namespace TypeGraph.Command

/-- The places that a run may look at: those named by arguments, and all above them. -/
def namedLocations (directory : Location) (args : List String) : List Location :=
  match Parsed.read args with
  | .error _ => []
  | .ok parsed =>
      let paths := (parsed.value? .config).toList ++ (parsed.value? .output).toList ++
        parsed.positional.take 1
      paths.flatMap fun path =>
        let location := directory.resolve path
        location :: location.ancestors

def look (text : String) : IO Entry := do
  let path := (← IO.currentDir) / text
  if ← path.isDir then return .directory
  else if ← path.pathExists then return .file (← IO.FS.readBinFile path).toList
  else return .missing

def workspace (args : List String) : IO Workspace := do
  let current := (← IO.currentDir).toString
  let directory := Location.resolve ⟨"/", []⟩ current
  let entries ← (namedLocations directory args).mapM fun location => do
    return (location, ← look location.text)
  return {
    directory := directory
    entry := fun location => (entries.lookup location).getD .missing
    terminalOutput := ← (← IO.getStdout).isTty
    terminalErrors := ← (← IO.getStderr).isTty
    withoutControls := Text.dropControls }

end TypeGraph.Command

open TypeGraph.Command in
def main (args : List String) : IO UInt32 := do
  let outcome := run (← workspace args) args
  if let some (location, content) := outcome.written then
    IO.FS.writeFile location.text content
  IO.print outcome.stdout
  IO.eprint outcome.stderr
  if let some reason := outcome.uncaught then
    IO.eprintln reason.message.spelled
  return outcome.exitCode.toUInt32
