import TypeGraph.Loader.Failure
import TypeGraph.Model.Construction

/-!
Type definitions, read from a document one at a time. Reading checks everything a definition
says by itself; its references stay as they are written and are resolved elsewhere.
-/

namespace TypeGraph

/-- What a definition is made of: named properties, or the items of a composition. -/
inductive Shape
  | object (properties : Mapping Json)
  | composition (kind : CompositionKind) (items : List Json)

structure Definition where
  ns : Text
  attributes : Attributes
  shape : Shape

namespace Definition

/-- The names in a list of text values; none if some value is not text. -/
def names? : Json → Option (List Text)
  | .arr items => items.mapM Json.asText?
  | _ => none

def readNamespace (name : Text) (fields : Mapping Json) : Except LoadFailure Text :=
  match fields.get? "namespace" with
  | none => .ok ""
  | some (.str ns) => .ok ns
  | some _ => .error (.graph (.namespaceNotText name))

def readDeprecated (name : Text) (fields : Mapping Json) : Except LoadFailure Bool :=
  match fields.get? "deprecated" with
  | none => .ok false
  | some (.bool b) => .ok b
  | some value => .error (.graph (.deprecatedNotFlag name value))

def readRequired (name : Text) (fields : Mapping Json) : Except LoadFailure (List Json) :=
  match fields.get? Keyword.required.word with
  | none => .ok []
  | some value =>
      match names? value with
      | some names => .ok (names.map .str)
      | none => .error (.graph (.requiredNotNames name value))

def readEnum (name : Text) (fields : Mapping Json) :
    Except LoadFailure (Option (List Json)) :=
  match fields.get? Keyword.enum.word with
  | none => .ok none
  | some (.arr values) => .ok (some values)
  | some value => .error (.graph (.enumNotList name value))

/-- A definition without any constraint keyword has no constraints. -/
def readConstraints (name : Text) (fields : Mapping Json) :
    Except LoadFailure (Option Constraints) :=
  if Keyword.all.any (fun k => fields.contains k.word) then do
    let required ← readRequired name fields
    let enum ← readEnum name fields
    .ok (some (Constraints.ofValues (fun k => fields.get? k.word) enum required))
  else .ok none

/-- A summary and a description that are both absent or null are no documentation. -/
def readDocumentation (fields : Mapping Json) : Option Documentation :=
  let summary := (fields.get? "summary").getD .null
  let description := (fields.get? "description").getD .null
  if summary.isNull && description.isNull then none else some ⟨summary, description⟩

def readProperties (name : Text) (fields : Mapping Json) :
    Except LoadFailure (Mapping Json) :=
  match fields.get? "properties" with
  | none => .ok Mapping.empty
  | some (.obj entries) => .ok (Mapping.ofList entries)
  | some _ => .error (.graph (.propertiesNotMapping name))

def readItems (name : Text) (fields : Mapping Json) : Except LoadFailure (List Json) :=
  match fields.get? "items" with
  | none => .ok []
  | some (.arr items) => .ok items
  | some _ => .error (.graph (.itemsNotList name))

/-- The type keyword decides the shape; without one a definition is an object. -/
def readShape (name : Text) (fields : Mapping Json) : Except LoadFailure Shape :=
  match (fields.get? "type").getD (.str "object") with
  | .str word =>
      if word = "object" then (readProperties name fields).map .object
      else
        match CompositionKind.ofKeyword? word with
        | some kind => (readItems name fields).map (.composition kind)
        | none => .error (.graph (.unknownType name (.str word)))
  | .arr items => .error (.compoundKeyword (Json.arr items).typeName)
  | .obj entries => .error (.compoundKeyword (Json.obj entries).typeName)
  | value => .error (.graph (.unknownType name value))

/-- Read the definition of a name. Of several faults the first in this order is reported. -/
def ofJson (name : Text) : Json → Except LoadFailure Definition
  | .obj entries => do
      let fields := Mapping.ofList entries
      let ns ← readNamespace name fields
      let deprecated ← readDeprecated name fields
      let constraints ← readConstraints name fields
      let documentation := readDocumentation fields
      let shape ← readShape name fields
      .ok ⟨ns, ⟨constraints, .bool deprecated, documentation⟩, shape⟩
  | _ => .error (.graph (.definitionNotMapping name))

/-- What a definition refers to, in order and with repetitions. -/
def references (d : Definition) : List Json :=
  match d.shape with
  | .object properties => properties.values
  | .composition _ items => items

/-- What is reported before the references of a definition are resolved. -/
def buildEvent (name : Text) (d : Definition) : Log.Event :=
  match d.shape with
  | .object properties => .buildingObject name properties.size
  | .composition kind items => .buildingComposition name kind items.length

/-- The data type that a definition describes, given what its references resolved to. -/
def assemble (id : Nat) (name : Text) (d : Definition) (targets : List DataType) : DataType :=
  match d.shape with
  | .object properties => .object id d.attributes name d.ns (properties.keys.zip targets)
  | .composition kind _ => .composed id d.attributes name d.ns kind targets

end Definition

end TypeGraph
