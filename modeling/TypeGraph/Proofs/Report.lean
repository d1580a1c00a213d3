import TypeGraph.Proofs.Loader.Meaning
import TypeGraph.Proofs.Report.Sections

/-!
Reports of loaded documents. Which lines the section of a type has for its properties can be read
off the declarations: the object definitions that the type merges say which properties there are
and what they refer to, and the type's own definition says which of them are required.
-/

namespace TypeGraph.Report

open Loader Declarations

/-- The line for a property, given what the merged definitions say of all properties. -/
def statedLine (definitions : Mapping Json) (owner : Text) (stated : List (Text × Text))
    (property : Text) : Text :=
  let ref := (stated.reverse.lookup property).getD ""
  "  " ++ property ++ ": " ++ ref ++
    (if property ∈ required definitions owner then " (required)" else "") ++
    (if Dangling definitions ref then " (unresolved)" else "") ++ "\n"

/-- The lines of a section, one for each property name, in the order in which the merged
definitions first mention it. -/
def statedLines (definitions : Mapping Json) (leaves : Text → List Text) (owner : Text) :
    List Text :=
  let stated := (leaves owner).flatMap (properties definitions)
  (stated.map Prod.fst).eraseDups.map (statedLine definitions owner stated)

theorem lookup_map_snd {α β : Type} (f : α → β) (l : List (Text × α)) (name : Text) :
    (l.map fun e => (e.1, f e.2)).lookup name = (l.lookup name).map f := by
  induction l with
  | nil => rfl
  | cons e l ih =>
      rw [List.map_cons, List.lookup_cons, List.lookup_cons, ih]
      cases name == e.1 <;> rfl

section Kept

variable {l : Loader} {name : Text} {t : DataType} {leaves : Text → List Text}

theorem properties_of_kept (coherent : l.Coherent) (seq : LeafSequence l.definitions leaves)
    (known : l.resolved.get? name = some t) :
    ∃ entries, t.properties = Mapping.ofList entries ∧
      (entries.map fun e => (e.1, e.2.name)) =
        (leaves name).flatMap (properties l.definitions) ∧
      ∀ e ∈ entries, l.resolved.get? e.2.name = some e.2 := by
  obtain ⟨hleaves, hkept⟩ := coherent.leaves_eq seq known
  have each (leaf : DataType) (hleaf : leaf ∈ t.leaves) :
      (leaf.properties.entries.map fun e => (e.1, e.2.name)) =
        properties l.definitions leaf.name ∧
      ∀ e ∈ leaf.properties.entries, l.resolved.get? e.2.name = some e.2 := by
    obtain ⟨_, _, _, _, _, object⟩ := DataType.isObject_of_mem_leaves hleaf
    exact coherent.properties_of_object (hkept leaf hleaf) object
  refine ⟨t.leaves.flatMap fun leaf => leaf.properties.entries, ?_, ?_, ?_⟩
  · rw [DataType.properties_eq_merge_leaves, Mapping.merge_eq_ofList, List.flatMap_map]
  · rw [hleaves, List.flatMap_map, List.map_flatMap]
    exact List.flatMap_congr fun leaf hleaf => (each leaf hleaf).1
  · intro e he
    obtain ⟨leaf, hleaf, he⟩ := List.mem_flatMap.mp he
    exact (each leaf hleaf).2 e he

/-- The section of a kept type has the lines that the declarations state. -/
theorem propertyTexts_of_kept (coherent : l.Coherent) (seq : LeafSequence l.definitions leaves)
    (known : l.resolved.get? name = some t) :
    t.properties.entries.map (propertyText t) = statedLines l.definitions leaves name := by
  obtain ⟨entries, hprops, hstated, hkept⟩ := properties_of_kept coherent seq known
  have hkeys : (((leaves name).flatMap (properties l.definitions)).map Prod.fst).eraseDups =
      t.properties.keys := by
    rw [← hstated, hprops, Mapping.keys_ofList, List.map_map]
    rfl
  rw [statedLines, hkeys, Mapping.keys, List.map_map]
  refine List.map_congr_left fun e he => ?_
  have found : entries.reverse.lookup e.1 = some e.2 := by
    rw [← Mapping.get?_ofList, ← hprops]
    exact Mapping.mem_entries_iff.mp he
  have href : ((leaves name).flatMap (properties l.definitions)).reverse.lookup e.1 =
      some e.2.name := by
    rw [← hstated, ← List.map_reverse, lookup_map_snd, found, Option.map_some]
  have hmem : e ∈ entries := by
    obtain ⟨before, after, split, -⟩ := List.lookup_eq_some_iff.mp found
    rw [← List.mem_reverse, split]
    exact List.mem_append_right _ (List.mem_cons_self ..)
  have unresolved := (coherent e.2.name e.2 (hkept e hmem)).isUnresolved_iff
  have required := (coherent name t known).isRequired_iff e.1
  simp only [Function.comp, propertyText, statedLine, href, Option.getD_some, required,
    unresolved]

end Kept

/-- The text of a report has a section for each declared name, in order, and the lines on properties
in each of them are those that the declarations state. -/
theorem report_of_document {document : Json} {l l' : Loader} {types : Mapping DataType}
    (read : Loader.ofDocument document = .ok l) (loaded : l.load = (.ok types, l'))
    (config : Config) :
    types.values.map DataType.name = l.definitions.keys ∧
      render types config =
        Text.join (types.values.map (sectionText (Options.ofConfig config))) ++
          unresolvedText types ∧
      (∃ leaves, LeafSequence l.definitions leaves) ∧
      ∀ leaves, LeafSequence l.definitions leaves → ∀ t ∈ types.values,
        sectionText (Options.ofConfig config) t =
          sectionWith (Options.ofConfig config) t
            (statedLines l.definitions leaves t.name) := by
  obtain ⟨definitions, rfl⟩ := ofDocument_eq_ok read
  obtain ⟨ts, l₁, resolves, rfl, -⟩ := (load_eq_ok_iff rfl).mp loaded
  have coherent := resolves.coherent (coherent_ofDefinitions definitions)
  obtain ⟨hrefs, hkept⟩ := coherent.refs_eq resolves.keeps
  have hnames : definitions.keys = ts.map DataType.name :=
    List.map_injective_iff.mpr (fun _ _ => Json.str.inj) hrefs
  have same : l₁.definitions = definitions := resolves.frame.1
  refine ⟨?names, render_eq_join _ config, ?leaves, ?lines⟩
  case names =>
    rw [values_of_resolves resolves]
    exact hnames.symm
  case leaves =>
    rw [← resolves.frame.1]
    refine ⟨_, coherent.leafSequence fun name declared => ?_⟩
    rw [same] at declared
    exact resolves.mem_keys (List.mem_map_of_mem declared)
  case lines =>
    intro leaves seq t ht
    rw [values_of_resolves resolves] at ht
    rw [← resolves.frame.1] at seq ⊢
    rw [sectionText_eq, propertyTexts_of_kept coherent seq (hkept t ht).1]

/-- A property that a later constituent overrides and only the composition requires. -/
theorem report_of_overridden_property :
    let document : Json := .obj [("types", .obj [
      ("A", .obj [("type", .str "allOf"), ("items", .arr [.str "B", .str "C"]),
        ("required", .arr [.str "x"])]),
      ("B", .obj [("properties", .obj [("x", .str "String"), ("y", .str "D")])]),
      ("C", .obj [("properties", .obj [("x", .str "B")])])])]
    ∃ (l l' : Loader) (types : Mapping DataType),
      Loader.ofDocument document = .ok l ∧ l.load = (.ok types, l') ∧
      types.values.map DataType.name = l.definitions.keys ∧
      render types .default =
        Text.join (types.values.map (sectionText (Options.ofConfig .default))) ++
          unresolvedText types ∧
      (∃ leaves, LeafSequence l.definitions leaves) ∧
      ∀ leaves, LeafSequence l.definitions leaves → ∀ t ∈ types.values,
        sectionText (Options.ofConfig .default) t =
          sectionWith (Options.ofConfig .default) t
            (statedLines l.definitions leaves t.name) := by
  intro document
  have read : Loader.ofDocument document = .ok _ := rfl
  exact ⟨_, _, _, read, rfl, report_of_document read rfl .default⟩

end TypeGraph.Report
