import TypeGraph.Mapping
import TypeGraph.Model.CompositionKind
import TypeGraph.Model.Constraints
import TypeGraph.Model.Documentation
import TypeGraph.Model.Primitive
import TypeGraph.NameSet

/-!
Data types: primitives, objects with ordered properties, compositions, and stand-ins for
schemas that could not be resolved. A type carries the identity it was built with, since a
graph shares types and two types built alike are still two.

Objects and compositions have properties. An `allOf` composition merges those of its
constituents, nested compositions first; the other kinds report none. The imports of a
composition are its own name and those of its object-shaped constituents, whatever its kind.
-/

namespace TypeGraph

/-- What any data type may carry besides its shape. -/
structure Attributes where
  constraints : Option Constraints
  /-- A flag, tested by whether the value holds. -/
  deprecated : Json
  documentation : Option Documentation

def Attributes.none : Attributes := ⟨.none, .bool false, .none⟩

/-- The namespace of unresolved types; no generated or library type lives there. -/
def unresolvedNamespace : Text := "io.openapiprocessor.leaked"

inductive DataType
  | primitive (id : Nat) (attributes : Attributes) (kind : Primitive)
  | unresolved (id : Nat) (attributes : Attributes) (name : Text)
  | object (id : Nat) (attributes : Attributes) (name ns : Text)
      (fields : List (Text × DataType))
  | composed (id : Nat) (attributes : Attributes) (name ns : Text) (kind : CompositionKind)
      (constituents : List DataType)

namespace DataType

instance : Inhabited DataType := ⟨.unresolved 0 .none ""⟩

/-- The identity of a type: no other type of the same graph has it. -/
def id : DataType → Nat
  | primitive id _ _ | unresolved id _ _ | object id _ _ _ _ | composed id _ _ _ _ _ => id

def attributes : DataType → Attributes
  | primitive _ a _ | unresolved _ a _ | object _ a _ _ _ | composed _ a _ _ _ _ => a

def name : DataType → Text
  | primitive _ _ kind => kind.name
  | unresolved _ _ name | object _ _ name _ _ | composed _ _ name _ _ _ => name

def ns : DataType → Text
  | primitive _ _ kind => kind.ns
  | unresolved _ _ _ => unresolvedNamespace
  | object _ _ _ ns _ | composed _ _ _ ns _ _ => ns

def qualifiedName (t : DataType) : Text := QualifiedName.join t.ns t.name

def unresolvedClass : Text := "NoDataType"
def objectClass : Text := "ModelDataType"
def compositionClass : Text := "ComposedObjectDataType"

/-- The class of a type, as messages name it. -/
def className : DataType → Text
  | primitive _ _ kind => kind.className
  | unresolved .. => unresolvedClass
  | object .. => objectClass
  | composed .. => compositionClass

/-- Whether the type has properties, be they none. -/
def isObject : DataType → Bool
  | object .. | composed .. => true
  | _ => false

/-- Whether the type stands in for an unresolved schema, which its namespace tells. -/
def isUnresolved (t : DataType) : Bool := t.ns == unresolvedNamespace

def composition? : DataType → Option CompositionKind
  | composed _ _ _ _ kind _ => some kind
  | _ => none

def constituents : DataType → List DataType
  | composed _ _ _ _ _ constituents => constituents
  | _ => []

/-- The constituents that have properties, in order. -/
def objectConstituents (t : DataType) : List DataType := t.constituents.filter isObject

/-- Required-ness is the type's own: no constituent makes a property required. -/
def isRequired (t : DataType) (property : Text) : Bool :=
  t.isObject && t.attributes.constraints.any (fun c => c.isRequired property)

mutual

/-- The ordered properties of a type, those of an `allOf` composition flattened. -/
def properties : DataType → Mapping DataType
  | object _ _ _ _ fields => Mapping.ofList fields
  | composed _ _ _ _ .allOf constituents => Mapping.merge (propertiesOfEach constituents)
  | _ => Mapping.empty

def propertiesOfEach : List DataType → List (Mapping DataType)
  | [] => []
  | t :: rest =>
      if t.isObject then properties t :: propertiesOfEach rest else propertiesOfEach rest

end

theorem propertiesOfEach_eq (l : List DataType) :
    propertiesOfEach l = (l.filter isObject).map properties := by
  induction l with
  | nil => rfl
  | cons t rest ih => by_cases h : t.isObject <;> simp [propertiesOfEach, h, ih]

mutual

/-- The qualified names to import for referring to a type. -/
def imports : DataType → NameSet
  | primitive _ _ kind =>
      if kind.ns ∈ Primitive.builtinNamespaces then NameSet.empty
      else NameSet.singleton kind.qualifiedName
  | unresolved _ _ name => NameSet.singleton (QualifiedName.join unresolvedNamespace name)
  | object _ _ name ns _ => NameSet.singleton (QualifiedName.join ns name)
  | composed _ _ name ns _ constituents =>
      (importsOfEach constituents).insert (QualifiedName.join ns name)

/-- The imports of the types that have properties, together. -/
def importsOfEach : List DataType → NameSet
  | [] => NameSet.empty
  | t :: rest =>
      if t.isObject then (imports t).union (importsOfEach rest) else importsOfEach rest

end

/-- What a composition imports on account of its constituents. -/
def referencedImports (t : DataType) : NameSet := importsOfEach t.constituents

theorem mem_importsOfEach {x : Text} {l : List DataType} :
    x ∈ importsOfEach l ↔ ∃ t ∈ l, t.isObject = true ∧ x ∈ t.imports := by
  induction l with
  | nil => simp [importsOfEach]
  | cons t rest ih => by_cases h : t.isObject <;> simp [importsOfEach, h, ih]

/-- The types that a type shows: those of its properties, then its constituents. -/
def children (t : DataType) : List DataType := t.properties.values ++ t.constituents

def unresolvedLabel : Text := "unresolved"
def objectLabel : Text := "object"
def primitiveLabel : Text := "primitive"

/-- A short label for the kind of a type; being unresolved goes before everything else. -/
def kindLabel (t : DataType) : Text :=
  if t.isUnresolved then unresolvedLabel
  else match t with
    | composed _ _ _ _ kind _ => kind.keyword
    | object .. => objectLabel
    | _ => primitiveLabel

end DataType
end TypeGraph
