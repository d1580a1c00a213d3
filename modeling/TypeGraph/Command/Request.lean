import TypeGraph.Command.Options
import TypeGraph.Command.Workspace

/-!
What a command line asks for, or how it is misused. The configuration and the document have to
exist; a request for help goes before everything but the shape of the arguments. Of faults in
two options that of the option given first counts.
-/

namespace TypeGraph.Command

structure Request where
  config : Option Location
  output : Option Location
  failOnUnresolved : Bool
  document : Location

inductive UsageError
  | parse (error : ParseError)
  | missingPath
  | configNotFound (path : String)
  | pathNotFound (path : String)
  | unexpectedArguments (args : List String)

def programName : String := "schema_datatypes"

def usageLine : String := "Usage: " ++ programName ++ " [OPTIONS] PATH\n"

def helpHint : String := "Try '" ++ programName ++ " --help' for help.\n"

def helpText : String :=
  usageLine ++ "\n" ++
  "  Load a type graph document and report its resolved data types.\n" ++ "\n" ++
  "Options:\n" ++
  "  -c, --config PATH\n" ++
  "  -o, --output PATH\n" ++
  "  --fail-on-unresolved  Exit with an error if any type could not be resolved\n" ++
  "  --help                Show this message and exit.\n"

/-- What may be meant instead of an unknown name. -/
def suggestion (similar : List Text) : Text :=
  match similar.map Text.Quoted.encode with
  | [] => ""
  | [name] => " Did you mean " ++ name ++ "?"
  | names => " (Did you mean one of: " ++ Text.intercalate ", " names ++ "?)"

def ParseError.message : ParseError → Text
  | .unknownOption name similar =>
      "No such option " ++ Text.Quoted.encode name ++ "." ++ suggestion similar
  | .missingValue name => "Option " ++ Text.Quoted.encode name ++ " requires an argument."
  | .unexpectedValue name => "Option " ++ Text.Quoted.encode name ++ " does not take a value."

def notFoundMessage (path : String) : Text :=
  "Path " ++ Text.Quoted.encode path ++ " does not exist."

def UsageError.message : UsageError → Text
  | .parse error => error.message
  | .missingPath => "Missing argument 'PATH'."
  | .configNotFound path => "Invalid value for '--config' / '-c': " ++ notFoundMessage path
  | .pathNotFound path => "Invalid value for 'PATH': " ++ notFoundMessage path
  | .unexpectedArguments args =>
      "Got unexpected extra argument" ++ (if args.length = 1 then "" else "s") ++
        " (" ++ Text.intercalate " " (args.map Text.ofString) ++ ")"

/-- Whether the usage is shown before the message; a misplaced value speaks for itself. -/
def UsageError.showsUsage : UsageError → Bool
  | .parse (.missingValue _) | .parse (.unexpectedValue _) => false
  | _ => true

inductive Invocation
  | help
  | run (request : Request)

/-- Why arguments ask for nothing that can be carried out. -/
inductive Rejection
  | usage (error : UsageError)
  /-- A path has a null character in it, which no name of a file has. -/
  | malformedPath

def locate (ws : Workspace) (path : String) : Except Rejection Location :=
  if path.toList.contains '\x00' then .error .malformedPath else .ok (ws.resolve path)

def checkConfig (ws : Workspace) (p : Parsed) : Except Rejection (Option Location) :=
  match p.value? .config with
  | none => .ok none
  | some path => do
      let location ← locate ws path
      if ws.exists? location then .ok (some location)
      else .error (.usage (.configNotFound path))

def checkOutput (ws : Workspace) (p : Parsed) : Except Rejection (Option Location) :=
  match p.value? .output with
  | none => .ok none
  | some path => (locate ws path).map some

/-- The places of the configuration and of the output. -/
def checkOptions (ws : Workspace) (p : Parsed) :
    Except Rejection (Option Location × Option Location) :=
  if p.outputFirst then do
    let output ← checkOutput ws p
    let config ← checkConfig ws p
    .ok (config, output)
  else do
    let config ← checkConfig ws p
    let output ← checkOutput ws p
    .ok (config, output)

def checkPath (ws : Workspace) (path : String) : Except Rejection Location := do
  let location ← locate ws path
  if ws.exists? location then .ok location else .error (.usage (.pathNotFound path))

/-- What the arguments ask for in a workspace. -/
def Invocation.ofArguments (ws : Workspace) (args : List String) :
    Except Rejection Invocation := do
  let parsed ← (Parsed.read args).mapError fun error => .usage (.parse error)
  if parsed.has .help then .ok .help
  else
    let (config, output) ← checkOptions ws parsed
    match parsed.positional with
    | [] => .error (.usage .missingPath)
    | path :: extra =>
        let document ← checkPath ws path
        if extra.isEmpty then
          .ok (.run ⟨config, output, parsed.has .failOnUnresolved, document⟩)
        else .error (.usage (.unexpectedArguments extra))

end TypeGraph.Command
