/-!
Places in a file tree. A path is resolved against a directory step by step: an empty step and
a single dot stay, two dots go up, and nothing lies above the root.
-/

namespace TypeGraph.Command

/-- A place: the text of its root and the names on the way down from it. -/
structure Location where
  root : String
  steps : List String
deriving DecidableEq

namespace Location

def text (l : Location) : String := l.root ++ "/".intercalate l.steps

/-- Split a path at its slashes. -/
def splitSteps (path : List Char) : List (List Char) :=
  path.foldr (fun c parts => match parts with
    | part :: rest => if c = '/' then [] :: part :: rest else (c :: part) :: rest
    | [] => []) [[]]

def follow (l : Location) (step : String) : Location :=
  if step = "" ∨ step = "." then l
  else if step = ".." then { l with steps := l.steps.dropLast }
  else { l with steps := l.steps ++ [step] }

/-- The place of a path, which starts at the root if it begins with a slash. -/
def resolve (directory : Location) (path : String) : Location :=
  let start := if path.toList.head? = some '/' then ⟨"/", []⟩ else directory
  ((splitSteps path.toList).map String.ofList).foldl follow start

/-- The places above, nearest first. -/
def ancestors (l : Location) : List Location :=
  (List.range l.steps.length).map fun n => { l with steps := l.steps.take (l.steps.length - 1 - n) }

end Location

/-- What is found at a place. -/
inductive Entry
  | missing
  | directory
  | file (content : List UInt8)

inductive FileProblem
  | notFound
  | notDirectory
  | isDirectory
  | nameTooLong
deriving DecidableEq

structure FileFault where
  problem : FileProblem
  location : Location

end TypeGraph.Command
