import TypeGraph.Json.Literal
import TypeGraph.Json.Sequence
import TypeGraph.Log.Event
import TypeGraph.Model.DataType

/-!
Building model objects by hand from unchecked parts. Building succeeds completely or fails
with the first fault, and a fault builds nothing. A composition that is not flattened is
reported once, when it is built.
-/

namespace TypeGraph

inductive BuildError
  | unknownKind (value : Json)
  | missingConstituent (index : Nat) (owner : Text)
  | missingProperty (property owner : Text)
  /-- What is built has no field of the given name. -/
  | unexpectedArgument (owner argument : Text)
  /-- The argument is what is being built and cannot be given. -/
  | repeatedArgument (owner argument : Text)
  /-- A value of the given type is no mapping from argument names to arguments. -/
  | notArguments (owner typeName : Text)
  /-- A value of the given type is no sequence. -/
  | notSequence (typeName : Text)

def BuildError.message : BuildError → Text
  | unknownKind value => "Unknown composition kind: " ++ value.literal
  | missingConstituent index owner =>
      "Constituent " ++ toString index ++ " of " ++ owner ++ " is missing"
  | missingProperty property owner =>
      "Property '" ++ property ++ "' of " ++ owner ++ " has no data type"
  | unexpectedArgument owner argument =>
      owner ++ ".__init__() got an unexpected keyword argument '" ++ argument ++ "'"
  | repeatedArgument owner argument =>
      owner ++ ".__init__() got multiple values for argument '" ++ argument ++ "'"
  | notArguments owner typeName =>
      owner ++ "() argument after ** must be a mapping, not " ++ typeName
  | notSequence typeName => "'" ++ typeName ++ "' object is not iterable"

/-- The fault of an argument that is no field of what is built. -/
def BuildError.ofArgument (owner argument : Text) : BuildError :=
  if argument = "self" then .repeatedArgument owner argument
  else .unexpectedArgument owner argument

/-- The kind that a value stands for. -/
def CompositionKind.parse (value : Json) : Except BuildError CompositionKind :=
  match ofJson? value with
  | some kind => .ok kind
  | none => .error (.unknownKind value)

/-- The items of a value that is taken for a sequence. -/
def sequenceOf (value : Json) : Except BuildError (List Json) :=
  match value.elements? with
  | some items => .ok items
  | none => .error (.notSequence value.typeName)

/-- The arguments that a value gives by name. -/
def argumentsOf (owner : Text) : Json → Except BuildError (Mapping Json)
  | .obj fields => .ok (Mapping.ofList fields)
  | value => .error (.notArguments owner value.typeName)

/-- Constraints from values by field name. The required names and the enumeration become
sequences, in this order; a null enumeration is none. -/
def Constraints.ofArguments (arguments : Mapping Json) : Except BuildError Constraints := do
  match arguments.keys.find? (fun name => (Keyword.ofFieldName? name).isNone) with
  | some name => .error (.ofArgument className name)
  | none =>
      let value? (k : Keyword) := arguments.get? k.fieldName
      let required ← match value? .required with
        | none => .ok []
        | some value => sequenceOf value
      let enum ← match value? .enum with
        | none | some .null => .ok none
        | some value => (sequenceOf value).map some
      .ok (Constraints.ofValues value? enum required)

def Documentation.fieldNames : List Text := ["summary", "description"]

/-- Documentation from values by field name. -/
def Documentation.ofArguments (arguments : Mapping Json) : Except BuildError Documentation :=
  match arguments.keys.find? (fun name => !fieldNames.contains name) with
  | some name => .error (.ofArgument className name)
  | none =>
      .ok ⟨(arguments.get? "summary").getD .null, (arguments.get? "description").getD .null⟩

/-- All the entries of a list of properties, unless one has no target. -/
def presentFields {α : Type} (owner : Text) :
    List (Json × Option α) → Except BuildError (List (Json × α))
  | [] => .ok []
  | (property, none) :: _ => .error (.missingProperty property.display owner)
  | (property, some target) :: rest => do
      let fields ← presentFields owner rest
      .ok ((property, target) :: fields)

/-- All the constituents from an index on, unless one is missing. -/
def presentConstituents {α : Type} (owner : Text) :
    Nat → List (Option α) → Except BuildError (List α)
  | _, [] => .ok []
  | index, none :: _ => .error (.missingConstituent index owner)
  | index, some target :: rest => do
      let constituents ← presentConstituents owner (index + 1) rest
      .ok (target :: constituents)

/-- What is reported when a type has been built: compositions that are not flattened. -/
def DataType.constructionEvents (t : DataType) : List Log.Event :=
  match t.composition? with
  | some kind => if kind.isFlattened then [] else [.notFlattened t.qualifiedName kind]
  | none => []

end TypeGraph
