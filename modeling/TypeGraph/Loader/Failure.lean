import TypeGraph.Json.Literal
import TypeGraph.Json.Parser
import TypeGraph.Text.Utf8

/-!
Why loading a type graph can fail. A graph error says what is wrong with the document; the
other failures come from elsewhere and are not blamed on it.
-/

namespace TypeGraph

inductive GraphError
  | missingTypes
  | invalidText (path : Text) (fault : Json.Parser.Fault)
  | definitionNotMapping (name : Text)
  | namespaceNotText (name : Text)
  | deprecatedNotFlag (name : Text) (value : Json)
  | requiredNotNames (name : Text) (value : Json)
  | enumNotList (name : Text) (value : Json)
  | propertiesNotMapping (name : Text)
  | itemsNotList (name : Text)
  | unknownType (name : Text) (value : Json)
  | referenceNotText (typeName : Text)
  /-- The names from the first mention of the repeated one to its second. -/
  | circular (chain : List Text)

def GraphError.message : GraphError → Text
  | missingTypes => "Type graph document must contain a \"types\" mapping"
  | invalidText path fault => "Invalid JSON in " ++ path ++ ": " ++ fault.message
  | definitionNotMapping name => "Definition of " ++ name ++ " must be a mapping"
  | namespaceNotText name => "Namespace of " ++ name ++ " must be a string"
  | deprecatedNotFlag name value =>
      "Deprecated flag of " ++ name ++ " must be a boolean, got " ++ value.literal
  | requiredNotNames name value =>
      "Required properties of " ++ name ++ " must be a list of names, got " ++ value.literal
  | enumNotList name value => "Enum of " ++ name ++ " must be a list, got " ++ value.literal
  | propertiesNotMapping name => "Properties of " ++ name ++ " must be a mapping"
  | itemsNotList name => "Items of " ++ name ++ " must be a list"
  | unknownType name value => "Unknown type '" ++ value.display ++ "' for " ++ name
  | referenceNotText typeName => "Type reference must be a string, got " ++ typeName
  | circular chain => "Circular type reference: " ++ Text.intercalate " -> " chain

/-- What a graph error comes from, if that is a fault in the text. -/
def GraphError.cause? : GraphError → Option Json.Parser.Fault
  | invalidText _ fault => some fault
  | _ => none

inductive LoadFailure
  | graph (error : GraphError)
  /-- The type keyword of a definition is a list or an object, which cannot be looked up among
  the keywords. -/
  | compoundKeyword (typeName : Text)
  /-- The bytes of a file are not UTF-8. -/
  | undecodable (fault : Text.Utf8.Fault)
  /-- More calls would nest than the loader allows for. -/
  | exhausted

def LoadFailure.message : LoadFailure → Text
  | graph error => error.message
  | compoundKeyword typeName => "unhashable type: '" ++ typeName ++ "'"
  | undecodable fault => fault.message
  | exhausted => "maximum depth exceeded"

end TypeGraph
