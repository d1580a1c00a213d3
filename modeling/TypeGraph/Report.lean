import TypeGraph.Config
import TypeGraph.Json.Literal
import TypeGraph.Model.DataType

/-!
The text report of a set of data types: a section for each type, in order, and a final line
with the names of the unresolved ones. A section has a header, documentation, property lines,
a note on compositions that are not flattened, the imports and a blank line. The configuration
only leaves parts out.
-/

namespace TypeGraph.Report

/-- Names of unresolved types among the given ones, their properties and their constituents,
each once, in the order in which they are met. -/
def unresolvedNames (types : Mapping DataType) : List Text :=
  let met (t : DataType) : List DataType := t :: (t.properties.values ++ t.constituents)
  ((types.values.flatMap met).filter DataType.isUnresolved).map DataType.name |>.eraseDups

/-- Which optional parts of a report are shown. -/
structure Options where
  imports : Bool
  documentation : Bool
deriving DecidableEq

def Options.ofConfig (c : Config) : Options :=
  ⟨c.showImports.holds, c.showDocumentation.holds⟩

/-- What a report says on a property of a type. -/
structure Property where
  name : Text
  typeName : Text
  required : Bool
  unresolved : Bool

/-- What a report says on a type. -/
structure Section where
  ns : Text
  name : Text
  kind : Text
  deprecated : Bool
  documentation : Option Documentation
  properties : List Property
  composition : Option CompositionKind
  imports : List Text

def Property.ofType (owner : DataType) (name : Text) (t : DataType) : Property :=
  ⟨name, t.name, owner.isRequired name, t.isUnresolved⟩

def Section.ofType (t : DataType) : Section :=
  { ns := t.ns
    name := t.name
    kind := t.kindLabel
    deprecated := t.attributes.deprecated.holds
    documentation := t.attributes.documentation
    properties := t.properties.entries.map fun e => .ofType t e.1 e.2
    composition := t.composition?
    imports := t.imports.toList }

def header (s : Section) : Text :=
  s.ns ++ "." ++ s.name ++ " (" ++ s.kind ++ ")" ++
    (if s.deprecated then " [deprecated]" else "") ++ "\n"

def documentationLine (label : Text) (value : Json) : Text :=
  if value.holds then "  " ++ label ++ ": " ++ value.display ++ "\n" else ""

def documentationLines (s : Section) : Text :=
  match s.documentation with
  | some d => documentationLine "summary" d.summary ++
      documentationLine "description" d.description
  | none => ""

def propertyLine (p : Property) : Text :=
  "  " ++ p.name ++ ": " ++ p.typeName ++ (if p.required then " (required)" else "") ++
    (if p.unresolved then " (unresolved)" else "") ++ "\n"

def propertyLines (s : Section) : Text := Text.join (s.properties.map propertyLine)

/-- The note on a composition whose properties are not merged. -/
def limitation (s : Section) : Text :=
  match s.composition with
  | some kind =>
      if kind.isFlattened then ""
      else "  note: " ++ kind.keyword ++ " compositions are not flattened\n"
  | none => ""

def importsLine (s : Section) : Text :=
  let names : Text := if s.imports.isEmpty then "-" else Text.intercalate ", " s.imports
  "  imports: " ++ names ++ "\n"

def Section.text (options : Options) (s : Section) : Text :=
  header s ++ (if options.documentation then documentationLines s else "") ++ propertyLines s ++
    limitation s ++ (if options.imports then importsLine s else "") ++ "\n"

/-- The last line, which is only there if a name is unresolved. -/
def unresolvedLine : List Text → Text
  | [] => ""
  | names => "unresolved: " ++ Text.intercalate ", " names ++ "\n"

/-- A report from its sections and the names of unresolved types. -/
def assemble (options : Options) (sections : List Section) (unresolved : List Text) : Text :=
  Text.join (sections.map (Section.text options)) ++ unresolvedLine unresolved

def renderWith (options : Options) (types : Mapping DataType) : Text :=
  assemble options (types.values.map Section.ofType) (unresolvedNames types)

def render (types : Mapping DataType) (config : Config) : Text :=
  renderWith (Options.ofConfig config) types

end TypeGraph.Report
