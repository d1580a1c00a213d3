import TypeGraph.Command.Location
import TypeGraph.Text.Quoted

/-!
The files that a command sees, and the faults of reading and writing them.
-/

namespace TypeGraph.Command

def FileProblem.number : FileProblem → Nat
  | .notFound => 2
  | .notDirectory => 20
  | .isDirectory => 21
  | .nameTooLong => 36

def FileProblem.reason : FileProblem → String
  | .notFound => "No such file or directory"
  | .notDirectory => "Not a directory"
  | .isDirectory => "Is a directory"
  | .nameTooLong => "File name too long"

def FileFault.message (f : FileFault) : Text :=
  "[Errno " ++ toString f.problem.number ++ "] " ++ f.problem.reason ++ ": " ++
    Text.Quoted.encode f.location.text

structure Workspace where
  /-- Where relative paths start. -/
  directory : Location
  entry : Location → Entry
  /-- Whether the two output streams are terminals, which show control sequences. -/
  terminalOutput : Bool
  terminalErrors : Bool
  /-- What is left of a text without its control sequences. -/
  withoutControls : Text → Text

namespace Workspace

/-- A text as it goes to a stream. -/
def shown (ws : Workspace) (terminal : Bool) (text : Text) : Text :=
  if terminal then text else ws.withoutControls text

def resolve (ws : Workspace) (path : String) : Location := ws.directory.resolve path

def exists? (ws : Workspace) (l : Location) : Bool :=
  match ws.entry l with
  | .missing => false
  | _ => true

/-- The bytes that a single name may have, and those of a whole path. -/
def maxNameSize : Nat := 255
def maxPathSize : Nat := 4095

/-- What is in the way from a directory down: the first place that is none, or the first name
that is too long. -/
def obstacleFrom? (ws : Workspace) (root : String) (above : List String) :
    List String → Option FileProblem
  | [] => none
  | name :: below =>
      match ws.entry ⟨root, above⟩ with
      | .missing => some .notFound
      | .file _ => some .notDirectory
      | .directory =>
          if maxNameSize < name.utf8ByteSize then some .nameTooLong
          else ws.obstacleFrom? root (above ++ [name]) below

/-- Why a place cannot be reached. -/
def obstacle? (ws : Workspace) (l : Location) : Option FileProblem :=
  if maxPathSize < l.text.utf8ByteSize then some .nameTooLong
  else ws.obstacleFrom? l.root [] l.steps

def read (ws : Workspace) (l : Location) : Except FileFault (List UInt8) :=
  match ws.entry l with
  | .file content => .ok content
  | .directory => .error ⟨.isDirectory, l⟩
  | .missing => .error ⟨(ws.obstacle? l).getD .notFound, l⟩

/-- Why a file cannot be written: a directory is in its place, or the place is out of reach. -/
def writeFault? (ws : Workspace) (l : Location) : Option FileFault :=
  match ws.entry l with
  | .directory => some ⟨.isDirectory, l⟩
  | .file _ => none
  | .missing => (ws.obstacle? l).map fun problem => ⟨problem, l⟩

end Workspace
end TypeGraph.Command
