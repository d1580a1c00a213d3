import TypeGraph.Command.Request
import TypeGraph.Loader.Source
import TypeGraph.Log.Line
import TypeGraph.Report
import TypeGraph.Text.Encoding

/-!
Running the command: read the configuration, load the document, deliver the report, and then
fail if unresolved types are not tolerated. What happens is settled first, without regard to
how it is logged; the log settings only decide what is written to the error stream.
-/

namespace TypeGraph.Command

/-- Failures that the command does not turn into an error message. -/
inductive Uncaught
  | malformedPath
  | file (fault : FileFault)
  | config (failure : Config.ReadFailure)
  | threshold (error : Log.Threshold.Error)
  | load (failure : LoadFailure)
  /-- The report has surrogates in it, which have no encoding. -/
  | unencodable (fault : Text.EncodingFault)

def Uncaught.message : Uncaught → Text
  | malformedPath => "embedded null byte"
  | file fault => fault.message
  | config failure => failure.message
  | threshold error => error.message
  | load failure => failure.message
  | unencodable fault => fault.message

/-- How a run ends. -/
inductive Ending
  | success
  /-- Exit with status 1 after an error message. -/
  | failure (message : Text)
  | uncaught (reason : Uncaught)

/-- All that a run does, in terms of the domain. -/
structure Run where
  events : List Log.Event
  printed : String
  written : Option (Location × String)
  ending : Ending

namespace Run

def failed (events : List Log.Event) : LoadFailure → Run
  | .graph error => ⟨events, "", none, .failure error.message⟩
  | failure => ⟨events, "", none, .uncaught (.load failure)⟩

/-- Whether unresolved types are an error: the flag, or else the configuration, says so. -/
def strict (r : Request) (c : Config) : Bool := r.failOnUnresolved || c.failOnUnresolved.holds

/-- The check after the report is delivered: the names of unresolved types fail a strict run. -/
def gate (strict : Bool) (names : List Text) : List Log.Event × Ending :=
  if strict && !names.isEmpty then
    ([.unresolvedFound names], .failure ("Unresolved types: " ++ Text.intercalate ", " names))
  else ([], .success)

/-- Deliver the report on loaded types, then apply the check. Output that cannot be written
leaves an empty file behind, but nothing on a stream. -/
def deliver (ws : Workspace) (r : Request) (c : Config) (events : List Log.Event)
    (types : Mapping DataType) : Run :=
  let report := Report.render types c
  let (last, ending) := gate (strict r c) (Report.unresolvedNames types)
  match r.output with
  | none =>
      match (ws.shown ws.terminalOutput report).encode with
      | .error fault => ⟨events, "", none, .uncaught (.unencodable fault)⟩
      | .ok printed => ⟨events ++ last, printed, none, ending⟩
  | some location =>
      match ws.writeFault? location with
      | some fault => ⟨events, "", none, .uncaught (.file fault)⟩
      | none =>
          match report.encode with
          | .error fault => ⟨events, "", some (location, ""), .uncaught (.unencodable fault)⟩
          | .ok content => ⟨events ++ last, "", some (location, content), ending⟩

/-- Load the document and report on it. -/
def ofRequest (ws : Workspace) (r : Request) (c : Config) : Run :=
  match ws.read r.document with
  | .error fault => ⟨[], "", none, .uncaught (.file fault)⟩
  | .ok bytes =>
      match Loader.ofFile r.document.text bytes with
      | .error e => failed [] e
      | .ok loader =>
          match loader.load with
          | (.error e, loader) => failed loader.events e
          | (.ok types, loader) => deliver ws r c loader.events types

end Run

/-- What the outside sees of a run. -/
structure Outcome where
  exitCode : Nat
  stdout : String
  stderr : String
  uncaught : Option Uncaught
  written : Option (Location × String)

namespace Outcome

/-- An error message as the error stream shows it, which spells surrogates out. -/
def errorText (ws : Workspace) (message : Text) : String :=
  (ws.shown ws.terminalErrors ("Error: " ++ message ++ "\n")).spelled

def ofUncaught (reason : Uncaught) : Outcome := ⟨1, "", "", some reason, none⟩

def ofUsageError (ws : Workspace) (e : UsageError) : Outcome :=
  let usage := if e.showsUsage then usageLine ++ helpHint ++ "\n" else ""
  ⟨2, "", usage ++ errorText ws e.message, none, none⟩

/-- A run as its log settings let it be seen. -/
def ofRun (ws : Workspace) (settings : Log.Settings) (run : Run) : Outcome :=
  let log := (settings.write (run.events.map Log.Event.entry)).spelled
  match run.ending with
  | .success => ⟨0, run.printed, log, none, run.written⟩
  | .failure message => ⟨1, run.printed, log ++ errorText ws message, none, run.written⟩
  | .uncaught reason => ⟨1, run.printed, log, some reason, run.written⟩

end Outcome

/-- The configuration of a request: the defaults, or what its file says. -/
def readConfig (ws : Workspace) (r : Request) : Except Uncaught Config :=
  match r.config with
  | none => .ok Config.default
  | some location => do
      let bytes ← (ws.read location).mapError .file
      (Config.ofFile bytes).mapError .config

/-- Carry out a request under a configuration, whose log settings have to be valid. -/
def runConfigured (ws : Workspace) (r : Request) (config : Config) : Outcome :=
  match Log.Settings.ofOptions config.logLevel config.jsonLogs with
  | .error e => .ofUncaught (.threshold e)
  | .ok settings => .ofRun ws settings (Run.ofRequest ws r config)

def runRequest (ws : Workspace) (r : Request) : Outcome :=
  match readConfig ws r with
  | .error reason => .ofUncaught reason
  | .ok config => runConfigured ws r config

/-- Run the command with its arguments. -/
def run (ws : Workspace) (args : List String) : Outcome :=
  match Invocation.ofArguments ws args with
  | .error (.usage e) => .ofUsageError ws e
  | .error .malformedPath => .ofUncaught .malformedPath
  | .ok .help => ⟨0, helpText, "", none, none⟩
  | .ok (.run request) => runRequest ws request

end TypeGraph.Command
