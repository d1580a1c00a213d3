import TypeGraph.QualifiedName

/-!
Primitive types: a fixed target type for each schema name. Types of a built-in namespace need
no import, all others exactly one.
-/

namespace TypeGraph

inductive Primitive
  | long
  | integer
  | string
  | boolean
  | float
  | double
  | localDate
  | offsetDateTime
  | uuid
deriving DecidableEq

namespace Primitive

/-- In the order of the registry. -/
def all : List Primitive :=
  [long, integer, string, boolean, float, double, localDate, offsetDateTime, uuid]

def name : Primitive → Text
  | long => "Long"
  | integer => "Integer"
  | string => "String"
  | boolean => "Boolean"
  | float => "Float"
  | double => "Double"
  | localDate => "LocalDate"
  | offsetDateTime => "OffsetDateTime"
  | uuid => "UUID"

def ns : Primitive → Text
  | localDate | offsetDateTime => "java.time"
  | uuid => "java.util"
  | _ => "java.lang"

/-- Namespaces whose types are available without an import. -/
def builtinNamespaces : List Text := ["java.lang"]

/-- The class of a primitive, as messages name it. -/
def className (p : Primitive) : Text := p.name ++ "DataType"

def qualifiedName (p : Primitive) : Text := QualifiedName.join p.ns p.name

/-- The primitive that a schema name stands for. -/
def ofName? (name : Text) : Option Primitive := all.find? (fun p => p.name == name)

theorem mem_all (p : Primitive) : p ∈ all := by cases p <;> decide

theorem ofName?_name (p : Primitive) : ofName? p.name = some p := by cases p <;> rfl

theorem ofName?_eq_some_iff {name : Text} {p : Primitive} :
    ofName? name = some p ↔ name = p.name := by
  refine ⟨fun h => ?_, fun h => h ▸ ofName?_name p⟩
  have := List.find?_some h
  exact (eq_of_beq this).symm

end Primitive
end TypeGraph
