import TypeGraph.Json.Basic

/-!
The three ways of composing types. Only `allOf` merges the properties of what it composes.
-/

namespace TypeGraph

inductive CompositionKind
  | allOf
  | oneOf
  | anyOf
deriving DecidableEq

namespace CompositionKind

def all : List CompositionKind := [allOf, oneOf, anyOf]

def keyword : CompositionKind → Text
  | allOf => "allOf"
  | oneOf => "oneOf"
  | anyOf => "anyOf"

/-- The name under which a kind is listed. -/
def label : CompositionKind → Text
  | allOf => "ALL_OF"
  | oneOf => "ONE_OF"
  | anyOf => "ANY_OF"

def ofKeyword? (word : Text) : Option CompositionKind :=
  all.find? (fun kind => kind.keyword == word)

/-- A kind is given by its keyword; no other value is one. -/
def ofJson? : Json → Option CompositionKind
  | .str word => ofKeyword? word
  | _ => none

def isFlattened (kind : CompositionKind) : Bool := kind == allOf

theorem mem_all (kind : CompositionKind) : kind ∈ all := by cases kind <;> decide

theorem keyword_injective {a b : CompositionKind} (h : a.keyword = b.keyword) : a = b := by
  cases a <;> cases b <;> first | rfl | exact absurd h (by decide)

theorem ofKeyword?_keyword (kind : CompositionKind) : ofKeyword? kind.keyword = some kind := by
  cases kind <;> rfl

theorem ofKeyword?_eq_some_iff {word : Text} {kind : CompositionKind} :
    ofKeyword? word = some kind ↔ word = kind.keyword := by
  refine ⟨fun h => ?_, fun h => h ▸ ofKeyword?_keyword kind⟩
  have := List.find?_some h
  exact (eq_of_beq this).symm

end CompositionKind
end TypeGraph
