import TypeGraph.Json.Basic
import TypeGraph.Number.Shortest
import TypeGraph.Text.Quoted

/-!
Values as messages and reports show them: null and truth values are words, text is quoted
inside a value and bare on its own.
-/

namespace TypeGraph.Json

/-- The names that literals give to the numbers without digits. -/
def literalNames : Binary64.Names := ⟨"inf", "nan"⟩

mutual

/-- A value with its text quoted. -/
def literal : Json → Text
  | null => "None"
  | bool b => if b then "True" else "False"
  | int n => toString n
  | float x => x.text literalNames
  | str s => Text.Quoted.encode s
  | arr items => "[" ++ Text.intercalate ", " (literalItems items) ++ "]"
  | obj fields => "\x7b" ++ Text.intercalate ", " (literalFields fields) ++ "\x7d"

def literalItems : List Json → List Text
  | [] => []
  | item :: rest => literal item :: literalItems rest

def literalFields : List (Text × Json) → List Text
  | [] => []
  | (name, value) :: rest =>
      (Text.Quoted.encode name ++ ": " ++ literal value) :: literalFields rest

end

/-- A value on its own: bare if it is text, a literal otherwise. -/
def display : Json → Text
  | str s => s
  | value => literal value

end TypeGraph.Json
