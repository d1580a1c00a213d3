import TypeGraph.Proofs.Loader.Denotation
import TypeGraph.Proofs.Report.Sections

/-!
The names that are listed as unresolved. The list looks at the loaded types, their properties and
their constituents only, but these are all the instances that a loader holds after loading. So it
has exactly the names that the declarations leave open, those included whose property a later
constituent overrides and those that a composition without properties mentions.
-/

namespace TypeGraph

namespace Declarations

/-- A name that the declarations leave open: a reference that is neither declared nor primitive, or
a declared name in the namespace of unresolved types. -/
def LeftOpen (definitions : Mapping Json) (name : Text) : Prop :=
  ((∃ owner, Loader.Refers definitions owner name) ∧
      name ∉ definitions.keys ∧ Primitive.ofName? name = none) ∨
    (name ∈ definitions.keys ∧
      (fields definitions name).get? "namespace" = some (.str unresolvedNamespace))

/-- Every reference is a declared name or the name of a primitive, and no name is declared in the
namespace of unresolved types. -/
structure Complete (definitions : Mapping Json) : Prop where
  references : ∀ owner ref, Loader.Refers definitions owner ref →
    ref ∈ definitions.keys ∨ ∃ kind, Primitive.ofName? ref = some kind
  namespaces : ∀ name ∈ definitions.keys,
    (fields definitions name).get? "namespace" ≠ some (.str unresolvedNamespace)

section

variable {definitions : Mapping Json}

theorem complete_iff : Complete definitions ↔ ∀ name, ¬ LeftOpen definitions name := by
  constructor
  · rintro complete name (⟨⟨owner, refers⟩, undeclared, unregistered⟩ | ⟨declared, sentinel⟩)
    · rcases complete.references owner name refers with declared | ⟨kind, registered⟩
      · exact undeclared declared
      · rw [unregistered] at registered
        cases registered
    · exact complete.namespaces name declared sentinel
  · intro closed
    refine ⟨?references, fun name declared sentinel => closed name (.inr ⟨declared, sentinel⟩)⟩
    intro owner ref refers
    by_cases declared : ref ∈ definitions.keys
    · exact .inl declared
    · refine .inr (Option.ne_none_iff_exists'.mp fun unregistered => ?_)
      exact closed ref (.inl ⟨⟨owner, refers⟩, declared, unregistered⟩)

theorem leftOpen_iff {name : Text} :
    LeftOpen definitions name ↔
      (name ∈ definitions.keys ∨ ∃ owner, Loader.Refers definitions owner name) ∧
        Dangling definitions name := by
  have text : ((fields definitions name).get? "namespace").bind Json.asText? =
      some unresolvedNamespace ↔
      (fields definitions name).get? "namespace" = some (.str unresolvedNamespace) := by
    cases (fields definitions name).get? "namespace" with
    | none => simp
    | some value => cases value <;> simp [Json.asText?]
  -- Only a declared name has a namespace stated.
  have declared_of (sentinel : (fields definitions name).get? "namespace" =
      some (.str unresolvedNamespace)) : name ∈ definitions.keys := by
    by_contra undeclared
    rw [fields_of_undeclared (Mapping.get?_eq_none_iff.mpr undeclared)] at sentinel
    cases sentinel
  rw [LeftOpen, Dangling, text]
  constructor
  · rintro (⟨refers, unknown⟩ | ⟨declared, sentinel⟩)
    · exact ⟨.inr refers, .inl unknown⟩
    · exact ⟨.inl declared, .inr sentinel⟩
  · rintro ⟨met, unknown | sentinel⟩
    · exact .inl ⟨met.resolve_left unknown.1, unknown⟩
    · exact .inr ⟨declared_of sentinel, sentinel⟩

end

end Declarations

namespace Report

open Loader Declarations

theorem mem_unresolvedNames {types : Mapping DataType} {name : Text} :
    name ∈ unresolvedNames types ↔
      ∃ t ∈ types.values, ∃ shown ∈ t :: t.children, shown.isUnresolved = true ∧
        shown.name = name := by
  change name ∈ (((types.values.flatMap fun t => t :: t.children).filter
    DataType.isUnresolved).map DataType.name).eraseDups ↔ _
  simp only [List.mem_eraseDups, List.mem_map, List.mem_filter, List.mem_flatMap]
  constructor
  · rintro ⟨shown, ⟨⟨t, ht, hshown⟩, unresolved⟩, rfl⟩
    exact ⟨t, ht, shown, hshown, unresolved, rfl⟩
  · rintro ⟨t, ht, shown, hshown, unresolved, rfl⟩
    exact ⟨shown, ⟨⟨t, ht, hshown⟩, unresolved⟩, rfl⟩

theorem nodup_unresolvedNames (types : Mapping DataType) : (unresolvedNames types).Nodup :=
  Mapping.nodup_eraseDups _

section Loaded

variable {definitions : Mapping Json} {ts : List DataType} {l : Loader}

/-- The loaded types and what they show are all the instances held. -/
theorem shown_iff_held
    (h : (ofDefinitions definitions).Resolves (ofDefinitions definitions).declaredRefs ts l)
    {shown : DataType} :
    (∃ t ∈ ts, shown ∈ t :: t.children) ↔ l.resolved.get? shown.name = some shown := by
  have coherent := h.coherent (coherent_ofDefinitions definitions)
  have same : l.definitions = definitions := h.frame.1
  obtain ⟨hnames, hkept⟩ := coherent.names_of_resolves h
  have loaded {name : Text} {t : DataType} (declared : name ∈ definitions.keys)
      (known : l.resolved.get? name = some t) : t ∈ ts := by
    obtain ⟨u, hu, rfl⟩ := List.mem_map.mp (hnames ▸ declared)
    obtain rfl := Option.some.inj (known.symm.trans (hkept u hu))
    exact hu
  constructor
  · rintro ⟨t, ht, hshown⟩
    rcases List.mem_cons.mp hshown with rfl | hchild
    · exact hkept shown ht
    · exact ((coherent_iff.mp coherent).kept_of_mem_children (hkept t ht) hchild).1
  · intro known
    -- What mentions a reference is declared, hence loaded, and shows the instance held for it.
    rcases (mem_keys_of_loaded h).mp (Mapping.mem_keys_of_get? known) with
      declared | ⟨owner, refers⟩
    · exact ⟨shown, loaded declared known, List.mem_cons_self ..⟩
    · have keptOwner := (mem_keys_of_loaded h).mpr (.inl refers.declared)
      obtain ⟨t, knownOwner⟩ := Mapping.exists_get?_of_mem_keys keptOwner
      have denotes := (coherent owner t knownOwner).denotes
      obtain ⟨child, hchild, knownChild⟩ := denotes.child_of_refers (same ▸ refers)
      obtain rfl := Option.some.inj (known.symm.trans knownChild)
      exact ⟨t, loaded refers.declared knownOwner, List.mem_cons_of_mem _ hchild⟩

/-- On a new loader, the unresolved names are those that the declarations leave open. -/
theorem mem_unresolvedNames_iff_leftOpen
    (h : (ofDefinitions definitions).Resolves (ofDefinitions definitions).declaredRefs ts l)
    {name : Text} :
    name ∈ unresolvedNames (Mapping.ofList (definitions.keys.zip ts)) ↔
      LeftOpen definitions name := by
  have coherent := h.coherent (coherent_ofDefinitions definitions)
  have same : l.definitions = definitions := h.frame.1
  have values : (Mapping.ofList (definitions.keys.zip ts)).values = ts := values_of_resolves h
  rw [mem_unresolvedNames, values, leftOpen_iff, ← mem_keys_of_loaded h, ← same]
  constructor
  · rintro ⟨t, ht, shown, hshown, unresolved, rfl⟩
    have known := (shown_iff_held h).mp ⟨t, ht, hshown⟩
    exact ⟨Mapping.mem_keys_of_get? known, (coherent _ _ known).isUnresolved_iff.mp unresolved⟩
  · rintro ⟨kept, dangling⟩
    obtain ⟨shown, known⟩ := Mapping.exists_get?_of_mem_keys kept
    have explains := coherent name shown known
    have named := explains.name_eq
    obtain ⟨t, ht, hshown⟩ := (shown_iff_held h).mpr (named.symm ▸ known)
    exact ⟨t, ht, shown, hshown, explains.isUnresolved_iff.mpr dangling, named⟩

theorem unresolvedNames_eq_nil_iff
    (h : (ofDefinitions definitions).Resolves (ofDefinitions definitions).declaredRefs ts l) :
    unresolvedNames (Mapping.ofList (definitions.keys.zip ts)) = [] ↔ Complete definitions := by
  rw [complete_iff, List.eq_nil_iff_forall_not_mem]
  exact forall_congr' fun name => not_congr (mem_unresolvedNames_iff_leftOpen h)

end Loaded

section Text

variable {types : Mapping DataType} {t : DataType}

/-- No other label begins like that of unresolved types. -/
theorem isUnresolved_of_label {rest rest' : Text}
    (h : (" (" : Text) ++ t.kindLabel ++ ")" ++ rest = " (unresolved)" ++ rest') :
    t.isUnresolved = true := by
  have initial := congrArg (fun text : Text => text.points[2]?) h
  unfold DataType.kindLabel at initial
  split at initial
  · assumption
  · split at initial
    · rename_i kind _ _
      cases kind <;> exact absurd initial (by cbv; decide)
    all_goals exact absurd initial (by cbv; decide)

/-- A section whose header calls the type unresolved is listed. -/
theorem mem_unresolvedNames_of_headerText (ht : t ∈ types.values) {rest : Text}
    (h : headerText t = t.ns ++ "." ++ t.name ++ " (unresolved)" ++ rest) :
    t.name ∈ unresolvedNames types := by
  simp only [headerText, Text.append_assoc, Text.append_right_inj] at h
  have unresolved := isUnresolved_of_label (t := t) (by simpa only [Text.append_assoc] using h)
  exact mem_unresolvedNames.mpr ⟨t, ht, t, List.mem_cons_self .., unresolved, rfl⟩

theorem isUnresolved_of_propertyText {property : Text × DataType} {mark : Text}
    (h : propertyText t property =
      "  " ++ property.1 ++ ": " ++ property.2.name ++ mark ++ " (unresolved)\n") :
    property.2.isUnresolved = true := by
  by_contra resolved
  simp only [propertyText, if_neg resolved, Text.append_assoc, Text.append_right_inj] at h
  -- What remains of the line is shorter than the mark.
  have short : ∀ required : Bool,
      (Text.ofString (if required then " (required)" else "") ++
        (("" : Text) ++ "\n")).points.length ≤ 12 := by
    decide
  have long : (" (unresolved)\n" : Text).points.length = 14 := rfl
  have lengths := short (t.isRequired property.1)
  rw [h, Text.points_append, List.length_append, long] at lengths
  omega

/-- A line that marks the type of a property as unresolved names a type that is listed. -/
theorem mem_unresolvedNames_of_propertyText (ht : t ∈ types.values) {property : Text × DataType}
    (hp : property ∈ t.properties.entries) {mark : Text}
    (h : propertyText t property =
      "  " ++ property.1 ++ ": " ++ property.2.name ++ mark ++ " (unresolved)\n") :
    property.2.name ∈ unresolvedNames types := by
  have shown : property.2 ∈ t :: t.children :=
    List.mem_cons_of_mem _ (List.mem_append_left _ (List.mem_map_of_mem hp))
  exact mem_unresolvedNames.mpr
    ⟨t, ht, property.2, shown, isUnresolved_of_propertyText h, rfl⟩

end Text

/-- The list of unresolved names is exact: it has, once each, the references that are neither
declared nor primitive and the names declared in the namespace of unresolved types. A header or a
line on a property that says unresolved names a type that is in it. -/
theorem unresolved_list_exact {document : Json} {l l' : Loader} {types : Mapping DataType}
    (read : Loader.ofDocument document = .ok l) (loaded : l.load = (.ok types, l')) :
    (unresolvedNames types).Nodup ∧
    (∀ name, name ∈ unresolvedNames types ↔ LeftOpen l.definitions name) ∧
    ∀ config,
      render types config = Text.join (types.values.map (sectionText (Options.ofConfig config))) ++
        unresolvedText types ∧
      ∀ t ∈ types.values,
        sectionText (Options.ofConfig config) t = sectionWith (Options.ofConfig config) t
          (t.properties.entries.map (propertyText t)) ∧
        (∀ rest, headerText t = t.ns ++ "." ++ t.name ++ " (unresolved)" ++ rest →
          t.name ∈ unresolvedNames types) ∧
        ∀ property ∈ t.properties.entries, ∀ mark,
          propertyText t property =
            "  " ++ property.1 ++ ": " ++ property.2.name ++ mark ++ " (unresolved)\n" →
          property.2.name ∈ unresolvedNames types := by
  obtain ⟨definitions, rfl⟩ := ofDocument_eq_ok read
  obtain ⟨ts, l₁, resolves, rfl, -⟩ := (load_eq_ok_iff rfl).mp loaded
  refine ⟨nodup_unresolvedNames _, fun name => mem_unresolvedNames_iff_leftOpen resolves, ?_⟩
  intro config
  refine ⟨render_eq_join _ config, fun t ht => ⟨sectionText_eq _ t, ?_, ?_⟩⟩
  · exact fun _ => mem_unresolvedNames_of_headerText ht
  · exact fun _ hp _ => mem_unresolvedNames_of_propertyText ht hp

/-- A reference whose property a later constituent overrides, one below a composition without
properties, and a name declared in the namespace of unresolved types. -/
theorem overridden_reference_listed :
    let document : Json := .obj [("types", .obj [
      ("A", .obj [("type", .str "allOf"), ("items", .arr [.str "B", .str "C"])]),
      ("B", .obj [("properties", .obj [("x", .str "Gone")])]),
      ("C", .obj [("properties", .obj [("x", .str "Long")]),
        ("namespace", .str unresolvedNamespace)]),
      ("D", .obj [("type", .str "oneOf"), ("items", .arr [.str "Lost", .str "Gone"])])])]
    ∃ (l l' : Loader) (types : Mapping DataType),
      Loader.ofDocument document = .ok l ∧ l.load = (.ok types, l') ∧
      unresolvedNames types = ["C", "Gone", "Lost"] ∧
      (unresolvedNames types).Nodup ∧
      (∀ name, name ∈ unresolvedNames types ↔ LeftOpen l.definitions name) ∧
      ∀ config,
        render types config =
          Text.join (types.values.map (sectionText (Options.ofConfig config))) ++
            unresolvedText types ∧
        ∀ t ∈ types.values,
          sectionText (Options.ofConfig config) t = sectionWith (Options.ofConfig config) t
            (t.properties.entries.map (propertyText t)) ∧
          (∀ rest, headerText t = t.ns ++ "." ++ t.name ++ " (unresolved)" ++ rest →
            t.name ∈ unresolvedNames types) ∧
          ∀ property ∈ t.properties.entries, ∀ mark,
            propertyText t property =
              "  " ++ property.1 ++ ": " ++ property.2.name ++ mark ++ " (unresolved)\n" →
            property.2.name ∈ unresolvedNames types := by
  intro document
  have read : Loader.ofDocument document = .ok _ := rfl
  exact ⟨_, _, _, read, rfl, rfl, unresolved_list_exact read rfl⟩

end Report
end TypeGraph
