import TypeGraph.Proofs.Imports
import TypeGraph.Proofs.Loader.Metadata
import TypeGraph.Proofs.Report.Options

/-!
How a report identifies types. The header of a section starts with the namespace and the name of
the type, and lists of imports have its qualified name. The two are the same for a type that has a
namespace. The header of a type without one starts with a dot, which its qualified name has not.
-/

namespace TypeGraph

namespace DataType

/-- A composition imports what it reaches by way of constituents, and a type imports itself. -/
theorem Reaches.qualifiedName_mem_imports {t u : DataType} (h : u.Reaches t)
    (object : t.isObject = true) : t.qualifiedName ∈ u.imports :=
  (mem_imports_iff (h.isObject object)).mpr ⟨t, h, object, rfl⟩

end DataType

namespace Report

open Loader Declarations

/-- The header of a type's section starts with an identifier. What follows is the same whatever the
type is called. -/
def Heads (t : DataType) (identifier : Text) : Prop :=
  header (Section.ofType t) =
    identifier ++ (" (" ++ t.kindLabel ++ ")" ++
      (if t.attributes.deprecated.holds then " [deprecated]" else "") ++ "\n")

/-- An identifier is one of those that the text on a type's imports lists. -/
def Lists (t : DataType) (identifier : Text) : Prop :=
  ∃ before after, importsText t =
    "  imports: " ++ Text.intercalate ", " (before ++ identifier :: after) ++ "\n"

section

variable (t : DataType)

/-- There is exactly one identifier that a header starts with. -/
theorem heads_iff (identifier : Text) :
    Heads t identifier ↔ identifier = t.ns ++ "." ++ t.name := by
  have own : header (Section.ofType t) =
      t.ns ++ "." ++ t.name ++ (" (" ++ t.kindLabel ++ ")" ++
        (if t.attributes.deprecated.holds then " [deprecated]" else "") ++ "\n") := by
    change headerText t = _
    simp only [headerText, Text.append_assoc]
  rw [Heads, own, Text.append_left_inj]
  exact eq_comm

theorem heads_qualifiedName_iff : Heads t t.qualifiedName ↔ t.ns ≠ "" := by
  rw [heads_iff, DataType.qualifiedName]
  by_cases h : t.ns = ""
  · have longer : t.name ≠ "." ++ t.name := by
      intro same
      have dot : ("" : Text) = "." := (Text.append_left_inj t.name).mp same
      exact absurd dot (by decide)
    simp [h, QualifiedName.join_empty, longer]
  · simp [h, QualifiedName.join_of_ne_empty t.name h]

theorem lists_of_mem_imports {t : DataType} {identifier : Text}
    (h : identifier ∈ t.imports) : Lists t identifier := by
  obtain ⟨before, after, split⟩ := List.append_of_mem (NameSet.mem_def.mp h)
  refine ⟨before, after, ?_⟩
  have listed : t.imports.toList = before ++ identifier :: after := split
  simp [importsText, listed]

/-- A section starts with its header and ends with the imports, if they are shown, and a blank
line. -/
theorem sectionText_header (options : Options) :
    ∃ between, sectionText options t = header (Section.ofType t) ++ between ++
      (if options.imports then importsText t else "") ++ "\n" := by
  refine ⟨(if options.documentation then documentationLines (Section.ofType t) else "") ++
    Text.join (t.properties.entries.map (propertyText t)) ++ limitation (Section.ofType t), ?_⟩
  rw [sectionText_eq, sectionWith]
  simp only [Text.append_assoc]
  rfl

end

/-- The header of a loaded type starts with its namespace, a dot and its name, and its qualified
name is listed among its own imports and among those of the compositions that it is a constituent
of. Both are the same identifier where the document gives the type a namespace, and only there. -/
theorem section_identifies_type {document : Json} {l : Loader} {types : Mapping DataType}
    (loads : Loads document l types) :
    types.keys = l.definitions.keys ∧
    (∀ c, render types c =
      Text.join (types.values.map (sectionText (Options.ofConfig c))) ++ unresolvedText types) ∧
    (∀ t ∈ types.values, ∀ options, ∃ between,
      sectionText options t = header (Section.ofType t) ++ between ++
        (if options.imports then importsText t else "") ++ "\n") ∧
    ∀ name t, types.get? name = some t → ∃ ns,
      ((fields l.definitions name).get? "namespace").getD (.str "") = .str ns ∧
      t.qualifiedName = QualifiedName.join ns name ∧
      (∀ identifier, Heads t identifier ↔ identifier = ns ++ "." ++ name) ∧
      (Heads t t.qualifiedName ↔ ns ≠ "") ∧
      Lists t t.qualifiedName ∧
      ∀ other u, types.get? other = some u → t ∈ u.constituents → Lists u t.qualifiedName := by
  obtain ⟨keys, made⟩ := loads.ofDefinition
  refine ⟨keys, render_eq_join types, fun t _ => sectionText_header t, fun name t known => ?_⟩
  obtain ⟨_, d, id, targets, declared, read, rfl⟩ := made name t known
  obtain ⟨entries, rfl, reads⟩ := Definition.ofJson_eq_ok_iff.mp read
  have object := d.isObject_assemble id name targets
  have named := d.name_assemble id name targets
  have within := d.ns_assemble id name targets
  refine ⟨d.ns, ?stated, ?qualified, ?headed, ?same, ?own, ?others⟩
  case stated => rw [fields_of_declared declared, reads.ns]
  case qualified => rw [DataType.qualifiedName, named, within]
  case headed =>
    intro identifier
    rw [heads_iff, named, within]
  case same => rw [heads_qualifiedName_iff, within]
  case own => exact lists_of_mem_imports (DataType.Reaches.qualifiedName_mem_imports .refl object)
  case others =>
    intro other u _ constituent
    exact lists_of_mem_imports
      (DataType.Reaches.qualifiedName_mem_imports (.single constituent) object)

/-- A composition of a type with a namespace and one without. -/
theorem section_identifies_unplaced_type :
    let document : Json := .obj [("types", .obj [
      ("Choice", .obj [("type", .str "oneOf"), ("items", .arr [.str "Pet", .str "Owner"])]),
      ("Pet", .obj [("namespace", .str "model")]),
      ("Owner", .obj [("namespace", .str "")])])]
    ∃ (l : Loader) (types : Mapping DataType), Loads document l types ∧
      types.keys = l.definitions.keys ∧
      (∀ c, render types c =
        Text.join (types.values.map (sectionText (Options.ofConfig c))) ++ unresolvedText types) ∧
      (∀ t ∈ types.values, ∀ options, ∃ between,
        sectionText options t = header (Section.ofType t) ++ between ++
          (if options.imports then importsText t else "") ++ "\n") ∧
      ∀ name t, types.get? name = some t → ∃ ns,
        ((fields l.definitions name).get? "namespace").getD (.str "") = .str ns ∧
        t.qualifiedName = QualifiedName.join ns name ∧
        (∀ identifier, Heads t identifier ↔ identifier = ns ++ "." ++ name) ∧
        (Heads t t.qualifiedName ↔ ns ≠ "") ∧
        Lists t t.qualifiedName ∧
        ∀ other u, types.get? other = some u → t ∈ u.constituents → Lists u t.qualifiedName := by
  intro document
  have loads : Loads document _ _ := ⟨rfl, rfl⟩
  exact ⟨_, _, loads, section_identifies_type loads⟩

/-- The header of a type without a namespace starts with a dot. -/
theorem dot_heads_unplaced_type :
    ¬ ∀ document l types, Loads document l types → ∀ name t, types.get? name = some t →
      Heads t t.qualifiedName := by
  intro headed
  have loads : Loads (.obj [("types", .obj [("A", .obj [])])]) _ _ := ⟨rfl, rfl⟩
  have unplaced := (heads_qualifiedName_iff _).mp (headed _ _ _ loads "A" _ rfl)
  exact unplaced rfl

end Report
end TypeGraph
