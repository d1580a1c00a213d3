import TypeGraph.Log.Entry
import TypeGraph.Model.CompositionKind

/-!
What can happen while a type graph is loaded and checked, and the log entry of each event.
-/

namespace TypeGraph.Log

inductive Event
  | buildingObject (name : Text) (properties : Nat)
  | buildingComposition (name : Text) (kind : CompositionKind) (items : Nat)
  /-- A reference fits nothing; `origin` is the type that mentions it. -/
  | unresolvedReference (ref : Text) (origin : Option Text)
  | notFlattened (qualifiedName : Text) (kind : CompositionKind)
  | graphLoaded (types resolved : Nat)
  | unresolvedFound (names : List Text)
deriving DecidableEq

namespace Event

def loaderLogger : Text := "schema_datatypes.loader"
def compositionLogger : Text := "schema_datatypes.model.composed_datatype"
def commandLogger : Text := "schema_datatypes.cli"

def count (n : Nat) : Json := .int n

/-- What is logged of a composition that is not flattened, whatever stands for its name. -/
def notFlattenedEntry (qualifiedName : Json) (kind : CompositionKind) : Entry :=
  ⟨.warning, compositionLogger, .str "Composition is not flattened, properties will be empty",
    Mapping.ofList [("type", qualifiedName), ("kind", .str kind.keyword)]⟩

def entry : Event → Entry
  | buildingObject name properties =>
      ⟨.debug, loaderLogger, .str "Building object type",
        Mapping.ofList [("type", .str name), ("properties", count properties)]⟩
  | buildingComposition name kind items =>
      ⟨.debug, loaderLogger, .str "Building composed type",
        Mapping.ofList [("type", .str name), ("kind", .str kind.keyword), ("items", count items)]⟩
  | unresolvedReference ref origin =>
      ⟨.warning, loaderLogger, .str "Unresolved type reference",
        Mapping.ofList [("ref", .str ref), ("referenced_from", origin.elim .null .str)]⟩
  | notFlattened qualifiedName kind => notFlattenedEntry (.str qualifiedName) kind
  | graphLoaded types resolved =>
      ⟨.debug, loaderLogger, .str "Type graph loaded",
        Mapping.ofList [("types", count types), ("resolved", count resolved)]⟩
  | unresolvedFound names =>
      ⟨.error, commandLogger, .str "Unresolved types found",
        Mapping.ofList [("types", .arr (names.map .str))]⟩

end Event
end TypeGraph.Log
