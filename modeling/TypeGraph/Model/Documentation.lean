import TypeGraph.Model.FieldValue

/-!
Descriptive metadata of a data type, carried unchanged.
-/

namespace TypeGraph

structure Documentation where
  summary : Json
  description : Json

/-- The class of documentation, as messages name it. -/
def Documentation.className : Text := "Documentation"

/-- The class together with the module that it is found in. -/
def Documentation.fullClassName : Text := "schema_datatypes.model.documentation." ++ className

def Documentation.fields (d : Documentation) : List (Text × FieldValue) :=
  [("summary", .single d.summary), ("description", .single d.description)]

def Documentation.same (d e : Documentation) : Bool :=
  d.summary.same e.summary && d.description.same e.description

end TypeGraph
