import TypeGraph.Json.Literal

/-!
Qualified names: the identifier under which a type is imported.
-/

namespace TypeGraph.QualifiedName

/-- A type outside every namespace is imported under its bare name. -/
def join (ns name : Text) : Text :=
  if ns = "" then name else ns ++ "." ++ name

/-- The same for unchecked values: a namespace that does not hold counts as none. -/
def joinValues (ns name : Json) : Json :=
  if ns.holds then .str (ns.display ++ "." ++ name.display) else name

theorem join_empty (name : Text) : join "" name = name := rfl

theorem join_of_ne_empty {ns : Text} (name : Text) (h : ns ≠ "") :
    join ns name = ns ++ "." ++ name :=
  if_neg h

theorem joinValues_str (ns name : Text) :
    joinValues (.str ns) (.str name) = .str (join ns name) := by
  by_cases h : ns = "" <;> simp [joinValues, Json.holds, Json.display, join, h]

end TypeGraph.QualifiedName
