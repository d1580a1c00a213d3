import TypeGraph.Proofs.Report.Template
import TypeGraph.Report

/-!
The layout of a report as a template, line by line. Given what the report says on each type, the
template has the text of the report, so its tags leave neither an empty line behind nor two lines
in one, whatever is shown and whatever is absent.
-/

namespace TypeGraph.Report

open Template

/-- A field of the type at hand, of its documentation, and of the property at hand. -/
def typeField (name : Text) : Expr := .field (.name "type") name

def documentationField (name : Text) : Expr := .field (typeField "documentation") name

def propertyField (name : Text) : Expr := .field (.name "prop") name

def layout : List Line := [
  [.tag (.each "type" (.name "types"))],
  [.output (typeField "namespace"), .text ".", .output (typeField "name"), .text " (",
    .output (typeField "kind"), .text ")", .tag (.when (typeField "deprecated")),
    .text " [deprecated]", .tag .endWhen],
  [],
  [.tag (.when (.both (.name "show_documentation") (typeField "documentation")))],
  [.tag (.when (documentationField "summary"))],
  [.text "  summary: ", .output (documentationField "summary")],
  [.tag .endWhen],
  [.tag (.when (documentationField "description"))],
  [.text "  description: ", .output (documentationField "description")],
  [.tag .endWhen],
  [.tag .endWhen],
  [.tag (.each "prop" (typeField "properties"))],
  [.text "  ", .output (propertyField "name"), .text ": ", .output (propertyField "type"),
    .tag (.when (propertyField "required")), .text " (required)", .tag .endWhen,
    .tag (.when (propertyField "unresolved")), .text " (unresolved)", .tag .endWhen],
  [],
  [.tag .endEach],
  [.tag (.when (typeField "limitation"))],
  [.text "  note: ", .output (typeField "limitation")],
  [.tag .endWhen],
  [.tag (.when (.name "show_imports"))],
  [.text "  imports: ", .output (.choice (typeField "imports")
    (.joined (typeField "imports") ", ") (.literal "-"))],
  [.tag .endWhen],
  [],
  [.tag .endEach],
  [.tag (.when (.name "unresolved"))],
  [.text "unresolved: ", .output (.joined (.name "unresolved") ", ")],
  [.tag .endWhen]]

def documentationValue (d : Documentation) : Value :=
  .object [("summary", .plain d.summary), ("description", .plain d.description)]

def propertyValue (owner : DataType) (name : Text) (t : DataType) : Value :=
  .object [("name", .text name), ("type", .text t.name),
    ("required", .flag (owner.isRequired name)), ("unresolved", .flag t.isUnresolved)]

/-- What there is to say on a composition that is not flattened. -/
def limitationValue (t : DataType) : Value :=
  match t.composition? with
  | some kind =>
      if kind.isFlattened then .plain .null
      else .text (kind.keyword ++ " compositions are not flattened")
  | none => .plain .null

/-- All that is said on a type that is declared under a name. -/
def typeValue (key : Text) (t : DataType) : Value :=
  .object [("key", .text key), ("name", .text t.name), ("namespace", .text t.ns),
    ("kind", .text t.kindLabel), ("imports", .list (t.imports.toList.map .text)),
    ("deprecated", .plain t.attributes.deprecated),
    ("documentation", t.attributes.documentation.elim (.plain .null) documentationValue),
    ("properties", .list (t.properties.entries.map fun e => propertyValue t e.1 e.2)),
    ("limitation", limitationValue t)]

def scope (types : Mapping DataType) (c : Config) : Scope := [
  ("types", .list (types.entries.map fun e => typeValue e.1 e.2)),
  ("unresolved", .list ((unresolvedNames types).map .text)),
  ("show_imports", .plain c.showImports),
  ("show_documentation", .plain c.showDocumentation)]

section Nested

def headerNodes : List Node := [
  .output (typeField "namespace"), .text ".", .output (typeField "name"), .text " (",
  .output (typeField "kind"), .text ")", .cond (typeField "deprecated") [.text " [deprecated]"],
  .text "\n"]

def documentationNode (name : Text) : Node :=
  .cond (documentationField name) [
    .text ("  " ++ name ++ ": "), .output (documentationField name), .text "\n"]

def documentationNodes : List Node := [
  .cond (.both (.name "show_documentation") (typeField "documentation"))
    [documentationNode "summary", documentationNode "description"]]

def propertyNodes : List Node := [
  .text "  ", .output (propertyField "name"), .text ": ", .output (propertyField "type"),
  .cond (propertyField "required") [.text " (required)"],
  .cond (propertyField "unresolved") [.text " (unresolved)"], .text "\n"]

def limitationNodes : List Node := [
  .cond (typeField "limitation") [.text "  note: ", .output (typeField "limitation"), .text "\n"]]

def importsNodes : List Node := [
  .cond (.name "show_imports") [.text "  imports: ", .output (.choice (typeField "imports")
    (.joined (typeField "imports") ", ") (.literal "-")), .text "\n"]]

def sectionNodes : List Node :=
  headerNodes ++ documentationNodes ++ [.loop "prop" (typeField "properties") propertyNodes] ++
    limitationNodes ++ importsNodes ++ [.text "\n"]

def unresolvedNodes : List Node := [
  .cond (.name "unresolved")
    [.text "unresolved: ", .output (.joined (.name "unresolved") ", "), .text "\n"]]

/-- Which ends of lines are left. -/
theorem nest_layout :
    nest [] [] (layout.flatMap Line.pieces) =
      some (.loop "type" (.name "types") sectionNodes :: unresolvedNodes) :=
  rfl

end Nested

section Blocks

variable {s : Scope} {key : Text} {t : DataType} {c : Config}

theorem textOf?_property (name : Text) (u : DataType) :
    textOf? (("prop", propertyValue t name u) :: s) propertyNodes =
      some (propertyLine (Property.ofType t name u)) := by
  cases hr : t.isRequired name <;> cases hu : u.isUnresolved <;>
    simp [propertyNodes, propertyField, propertyValue, List.lookup_cons, hr, hu,
      propertyLine, Property.ofType, Text.append_assoc]

variable (known : s.lookup ("type" : Text) = some (typeValue key t))

include known

theorem value?_typeField (name : Text) :
    (typeField name).value? s = (typeValue key t).field? name := by
  simp [typeField, known]

theorem textOf?_header : textOf? s headerNodes = some (header (Section.ofType t)) := by
  have ns : (typeField "namespace").value? s = some (.text t.ns) := value?_typeField known _
  have name : (typeField "name").value? s = some (.text t.name) := value?_typeField known _
  have kind : (typeField "kind").value? s = some (.text t.kindLabel) := value?_typeField known _
  have deprecated : (typeField "deprecated").value? s = some (.plain t.attributes.deprecated) :=
    value?_typeField known _
  cases h : t.attributes.deprecated.holds <;>
    simp [headerNodes, ns, name, kind, deprecated, h, header, Section.ofType, Text.append_assoc]

theorem textOf?_documentation
    (shown : s.lookup ("show_documentation" : Text) = some (.plain c.showDocumentation)) :
    textOf? s documentationNodes =
      some (if c.showDocumentation.holds then documentationLines (Section.ofType t) else "") := by
  have said : (typeField "documentation").value? s =
      some (t.attributes.documentation.elim (.plain .null) documentationValue) :=
    value?_typeField known _
  cases h : c.showDocumentation.holds with
  | false => simp [documentationNodes, shown, h]
  | true =>
      cases given : t.attributes.documentation with
      | none =>
          have absent : Json.null.holds = false := rfl
          simp [documentationNodes, shown, said, h, given, absent, documentationLines,
            Section.ofType]
      | some d =>
          have summary : (documentationField "summary").value? s = some (.plain d.summary) := by
            simp [documentationField, said, given, documentationValue]
          have description : (documentationField "description").value? s =
              some (.plain d.description) := by
            simp [documentationField, said, given, documentationValue, List.lookup_cons]
          cases hs : d.summary.holds <;> cases hd : d.description.holds <;>
            simp [documentationNodes, documentationNode, shown, said, h, given,
              documentationValue, summary, description, hs, hd, documentationLines,
              documentationLine, Section.ofType, Text.append_assoc]

theorem textOf?_limitation : textOf? s limitationNodes = some (limitation (Section.ofType t)) := by
  have noted : (typeField "limitation").value? s = some (limitationValue t) :=
    value?_typeField known _
  have line {note : Text} (said : (typeField "limitation").value? s = some (.text note))
      (nonempty : note ≠ "") :
      textOf? s limitationNodes = some ("  note: " ++ note ++ "\n") := by
    simp [limitationNodes, said, nonempty, Text.append_assoc]
  have absent : Json.null.holds = false := rfl
  cases h : t.composition? with
  | none =>
      simp [limitationNodes, noted, limitationValue, limitation, Section.ofType, h, absent]
  | some kind =>
      rw [limitationValue, h] at noted
      rw [limitation, Section.ofType, h]
      cases kind with
      | allOf =>
          simp [limitationNodes, noted, absent, CompositionKind.isFlattened]
      | oneOf | anyOf => exact line noted (by decide)

theorem textOf?_imports (shown : s.lookup ("show_imports" : Text) = some (.plain c.showImports)) :
    textOf? s importsNodes =
      some (if c.showImports.holds then importsLine (Section.ofType t) else "") := by
  have listed : (typeField "imports").value? s = some (.list (t.imports.toList.map .text)) :=
    value?_typeField known _
  have joined := value?_joined ", " listed
  cases h : c.showImports.holds with
  | false => simp [importsNodes, shown, h]
  | true =>
      cases names : t.imports.toList with
      | nil =>
          simp [importsNodes, shown, h, listed, names, importsLine, Section.ofType,
            Text.append_assoc]
      | cons name rest =>
          simp [importsNodes, shown, h, listed, joined, names, importsLine, Section.ofType,
            Text.append_assoc]

theorem text?_properties :
    (Node.loop "prop" (typeField "properties") propertyNodes).text? s =
      some (propertyLines (Section.ofType t)) := by
  have listed : (typeField "properties").value? s =
      some (.list (t.properties.entries.map fun e => propertyValue t e.1 e.2)) :=
    value?_typeField known _
  rw [text?_loop listed fun e => textOf?_property e.1 e.2]
  simp [propertyLines, Section.ofType, Function.comp_def]

theorem textOf?_section (imports : s.lookup ("show_imports" : Text) = some (.plain c.showImports))
    (documentation : s.lookup ("show_documentation" : Text) = some (.plain c.showDocumentation)) :
    textOf? s sectionNodes = some ((Section.ofType t).text (Options.ofConfig c)) := by
  simp only [sectionNodes, textOf?_append, textOf?, textOf?_header known,
    textOf?_documentation known documentation, text?_properties known, textOf?_limitation known,
    textOf?_imports known imports, text?_text, Option.bind_some, Option.map_some,
    Text.append_empty]
  rfl

end Blocks

theorem textOf?_unresolved {s : Scope} {names : List Text}
    (known : s.lookup ("unresolved" : Text) = some (.list (names.map .text))) :
    textOf? s unresolvedNodes = some (unresolvedLine names) := by
  have joined : (Expr.joined (.name "unresolved") ", ").value? s =
      some (.text (Text.intercalate ", " names)) := value?_joined ", " known
  cases names with
  | nil => simp [unresolvedNodes, known, unresolvedLine]
  | cons name rest => simp [unresolvedNodes, known, joined, unresolvedLine, Text.append_assoc]

/-- The template has the text of the report. -/
theorem render_layout (types : Mapping DataType) (c : Config) :
    Template.render layout (scope types c) = some (render types c) := by
  have sections : (Node.loop "type" (.name "types") sectionNodes).text? (scope types c) =
      some (Text.join
        (types.entries.map fun e => (Section.ofType e.2).text (Options.ofConfig c))) :=
    text?_loop rfl fun e => textOf?_section rfl rfl rfl
  have unresolved : textOf? (scope types c) unresolvedNodes =
      some (unresolvedLine (unresolvedNames types)) :=
    textOf?_unresolved rfl
  rw [Template.render, nest_layout]
  simp [sections, unresolved, render, renderWith, assemble, Mapping.values, Function.comp_def]

end TypeGraph.Report
