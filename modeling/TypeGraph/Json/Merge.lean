import TypeGraph.Json.Sequence

/-!
Merging the mappings of a value that is not known to be a list of mappings.
-/

namespace TypeGraph.Json

inductive MergeError
  /-- The sequence is a value of the given type, which yields no items. -/
  | notSequence (typeName : Text)
  /-- An item is a value of the given type, not a mapping. -/
  | notMapping (typeName : Text)

def MergeError.message : MergeError → Text
  | .notSequence typeName => "'" ++ typeName ++ "' object is not iterable"
  | .notMapping typeName => "'" ++ typeName ++ "' object has no attribute 'items'"

def asMapping : Json → Except MergeError (Mapping Json)
  | obj fields => .ok (Mapping.ofList fields)
  | value => .error (.notMapping value.typeName)

/-- Merge the mappings that a value yields. -/
def merge (value : Json) : Except MergeError (Mapping Json) :=
  match value.elements? with
  | none => .error (.notSequence value.typeName)
  | some items => (items.mapM asMapping).map Mapping.merge

end TypeGraph.Json
