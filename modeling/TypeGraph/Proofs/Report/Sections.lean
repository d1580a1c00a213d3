import TypeGraph.Report

/-!
The text of a report, part by part. It is one section for each type and the line on unresolved
types. The lines of a section stand in a fixed order, and those on properties in one piece.
-/

namespace TypeGraph.Report

/-- All that a report says on a type. -/
def sectionText (options : Options) (t : DataType) : Text := (Section.ofType t).text options

def headerText (t : DataType) : Text :=
  t.ns ++ "." ++ t.name ++ " (" ++ t.kindLabel ++ ")" ++
    (if t.attributes.deprecated.holds then " [deprecated]" else "") ++ "\n"

/-- The line on a property, given its name and its type. -/
def propertyText (owner : DataType) (property : Text × DataType) : Text :=
  "  " ++ property.1 ++ ": " ++ property.2.name ++
    (if owner.isRequired property.1 then " (required)" else "") ++
    (if property.2.isUnresolved then " (unresolved)" else "") ++ "\n"

def importsText (t : DataType) : Text :=
  let names : Text := if t.imports.toList = [] then "-" else Text.intercalate ", " t.imports.toList
  "  imports: " ++ names ++ "\n"

/-- The section of a type, if these are the lines on its properties. -/
def sectionWith (options : Options) (t : DataType) (propertyTexts : List Text) : Text :=
  headerText t ++ (if options.documentation then documentationLines (Section.ofType t) else "") ++
    Text.join propertyTexts ++ limitation (Section.ofType t) ++
    (if options.imports then importsText t else "") ++ "\n"

def unresolvedText (types : Mapping DataType) : Text := unresolvedLine (unresolvedNames types)

theorem importsLine_ofType (t : DataType) : importsLine (Section.ofType t) = importsText t := by
  cases h : t.imports.toList <;> simp [importsLine, Section.ofType, importsText, h]

theorem sectionText_eq (options : Options) (t : DataType) :
    sectionText options t =
      sectionWith options t (t.properties.entries.map (propertyText t)) := by
  have lines : propertyLines (Section.ofType t) =
      Text.join (t.properties.entries.map (propertyText t)) := by
    rw [propertyLines, Section.ofType, List.map_map]
    rfl
  rw [sectionText, Section.text, lines, importsLine_ofType]
  rfl

theorem render_eq_join (types : Mapping DataType) (c : Config) :
    render types c =
      Text.join (types.values.map (sectionText (Options.ofConfig c))) ++ unresolvedText types := by
  rw [render, renderWith, assemble, List.map_map]
  rfl

theorem unresolvedText_ne_empty_iff (types : Mapping DataType) :
    unresolvedText types ≠ "" ↔ unresolvedNames types ≠ [] := by
  unfold unresolvedText
  cases unresolvedNames types with
  | nil => simp [unresolvedLine]
  | cons name rest => simp [unresolvedLine]

end TypeGraph.Report
