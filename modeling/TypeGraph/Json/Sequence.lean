import TypeGraph.Json.Basic

/-!
Going through a value that is not known to be a list.
-/

namespace TypeGraph.Json

/-- What a value yields item by item: a list its items, a text its characters and an object its
names. Other values yield nothing. -/
def elements? : Json → Option (List Json)
  | arr items => some items
  | str s => some (s.points.map fun p => str (.ofPoint p))
  | obj fields => some (fields.map fun field => str field.1)
  | _ => none

inductive NamesError
  /-- The value yields no items. -/
  | notSequence
  /-- The item at an index is a value of the given type, not text. -/
  | notText (index : Nat) (typeName : Text)

def NamesError.message : NamesError → Text
  | .notSequence => "can only join an iterable"
  | .notText index typeName =>
      "sequence item " ++ toString index ++ ": expected str instance, " ++ typeName ++ " found"

/-- All the items from an index on as text, unless one is not. -/
def namesFrom : Nat → List Json → Except NamesError (List Text)
  | _, [] => .ok []
  | index, str name :: rest => do
      let names ← namesFrom (index + 1) rest
      .ok (name :: names)
  | index, value :: _ => .error (.notText index value.typeName)

/-- The items of a value that is taken for a sequence of names. -/
def names (value : Json) : Except NamesError (List Text) :=
  match value.elements? with
  | some items => namesFrom 0 items
  | none => .error .notSequence

end TypeGraph.Json
