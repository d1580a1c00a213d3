import TypeGraph.Json.Basic

/-!
Values of the fields of model objects: single values, and sequences that never change.
-/

namespace TypeGraph

inductive FieldValue
  | single (value : Json)
  | sequence (values : List Json)

namespace FieldValue

def same : FieldValue → FieldValue → Bool
  | single a, single b => a.same b
  | sequence as, sequence bs => Json.sameItems as bs
  | _, _ => false

/-- The values that a field is made of. -/
def parts : FieldValue → List Json
  | single value => [value]
  | sequence values => values

end FieldValue
end TypeGraph
