import TypeGraph.Proofs.Loader.Documents

/-!
The metadata that loaded types carry: what their own definitions give, unchanged. Which keyword sets
which constraint, and what the constraint is without it, is stated here on its own and not taken
from how definitions are read.
-/

namespace TypeGraph

/-- How a schema gives one constraint: by which keyword, whether as a list, and what the constraint
is without it. -/
structure ConstraintRule where
  word : Text
  name : Text
  listed : Bool
  fallback : FieldValue

namespace ConstraintRule

/-- The rules of all constraints, in the order in which constraints list them. -/
def all : List ConstraintRule :=
  [⟨"default", "default", false, .single .null⟩,
   ⟨"nullable", "nullable", false, .single (.bool false)⟩,
   ⟨"minLength", "min_length", false, .single .null⟩,
   ⟨"maxLength", "max_length", false, .single .null⟩,
   ⟨"pattern", "pattern", false, .single .null⟩,
   ⟨"format", "format", false, .single .null⟩,
   ⟨"minimum", "minimum", false, .single .null⟩,
   ⟨"exclusiveMinimum", "exclusive_minimum", false, .single .null⟩,
   ⟨"maximum", "maximum", false, .single .null⟩,
   ⟨"exclusiveMaximum", "exclusive_maximum", false, .single .null⟩,
   ⟨"minItems", "min_items", false, .single .null⟩,
   ⟨"maxItems", "max_items", false, .single .null⟩,
   ⟨"uniqueItems", "unique_items", false, .single (.bool false)⟩,
   ⟨"enum", "enum", true, .single .null⟩,
   ⟨"required", "required", true, .sequence []⟩]

/-- What a constraint holds, given the value under its keyword. A value that is there is taken as
it is, null included; a list keeps its elements, their order and their repetitions. -/
inductive Gives (rule : ConstraintRule) : Option Json → FieldValue → Prop
  | absent : Gives rule none rule.fallback
  | single (plain : rule.listed = false) (value : Json) : Gives rule (some value) (.single value)
  | sequence (listed : rule.listed = true) (values : List Json) :
      Gives rule (some (.arr values)) (.sequence values)

theorem gives_getD {rule : ConstraintRule} {fallback : Json} (plain : rule.listed = false)
    (same : rule.fallback = .single fallback) (value? : Option Json) :
    rule.Gives value? (.single (value?.getD fallback)) := by
  cases value? with
  | none => exact same ▸ .absent
  | some value => exact .single plain value

end ConstraintRule

/-- The rule that reading follows for a keyword. -/
def Keyword.rule : Keyword → ConstraintRule
  | .enum => ⟨Keyword.enum.word, Keyword.enum.fieldName, true, .single .null⟩
  | .required => ⟨Keyword.required.word, Keyword.required.fieldName, true, .sequence []⟩
  | keyword => ⟨keyword.word, keyword.fieldName, false, .single keyword.fallback⟩

theorem Keyword.map_rule_all : Keyword.all.map Keyword.rule = ConstraintRule.all := rfl

theorem Keyword.word_rule (keyword : Keyword) : keyword.rule.word = keyword.word := by
  cases keyword <;> rfl

theorem Keyword.name_rule (keyword : Keyword) : keyword.rule.name = keyword.fieldName := by
  cases keyword <;> rfl

/-- The metadata that a type carries is the metadata that fields give. -/
structure Carries (fields : Mapping Json) (t : DataType) : Prop where
  unconstrained : t.attributes.constraints = none ↔
    ∀ rule ∈ ConstraintRule.all, rule.word ∉ fields.keys
  constrained : ∀ constraints, t.attributes.constraints = some constraints →
    List.Forall₂ (fun rule (e : Text × FieldValue) =>
        e.1 = rule.name ∧ rule.Gives (fields.get? rule.word) e.2)
      ConstraintRule.all constraints.fields
  required : ∀ property, t.isRequired property = true ↔
    ∃ names, fields.get? "required" = some (.arr names) ∧ .str property ∈ names
  deprecated : t.attributes.deprecated = (fields.get? "deprecated").getD (.bool false)
  undocumented : t.attributes.documentation = none ↔
    (fields.get? "summary").getD .null = .null ∧ (fields.get? "description").getD .null = .null
  documented : ∀ documentation, t.attributes.documentation = some documentation →
    documentation.summary = (fields.get? "summary").getD .null ∧
      documentation.description = (fields.get? "description").getD .null

namespace Definition

theorem constrains_none_iff {fields : Mapping Json} {constraints : Option Constraints}
    (h : Constrains fields constraints) :
    constraints = none ↔ ∀ rule ∈ ConstraintRule.all, rule.word ∉ fields.keys := by
  simp only [← Keyword.map_rule_all, List.forall_mem_map, Keyword.word_rule,
    ← Mapping.get?_eq_none_iff]
  cases h with
  | none absent => exact ⟨fun _ keyword _ => absent keyword, fun _ => rfl⟩
  | @some keyword _ _ present _ _ _ =>
      exact ⟨(nomatch ·), fun absent => absurd (absent keyword keyword.mem_all) present⟩

/-- Every keyword sets its own constraint, and no other. -/
theorem gives_of_constrains {fields : Mapping Json} {constraints : Constraints}
    (h : Constrains fields (some constraints)) :
    List.Forall₂ (fun rule (e : Text × FieldValue) =>
        e.1 = rule.name ∧ rule.Gives (fields.get? rule.word) e.2)
      ConstraintRule.all constraints.fields := by
  cases h with
  | @some _ enum names _ required _ values =>
      rw [← Keyword.map_rule_all, Constraints.fields, List.forall₂_map_left_iff,
        List.forall₂_map_right_iff, List.forall₂_same]
      rintro keyword -
      refine ⟨keyword.name_rule.symm, ?_⟩
      rw [keyword.word_rule]
      cases keyword
      case enum =>
        change ConstraintRule.Gives _ (fields.get? "enum") _
        rw [values]
        cases enum with
        | none => exact .absent
        | some listed => exact .sequence rfl listed
      case required =>
        change ConstraintRule.Gives _ (fields.get? "required") (.sequence names)
        cases hr : fields.get? "required" with
        | none =>
            rw [hr, Option.getD_none, Json.arr.injEq] at required
            exact required ▸ .absent
        | some value =>
            rw [hr, Option.getD_some] at required
            exact required ▸ .sequence rfl names
      all_goals exact ConstraintRule.gives_getD rfl rfl _

theorem mem_filterMap_asText?_iff {names : List Json} {property : Text} :
    property ∈ names.filterMap Json.asText? ↔ .str property ∈ names := by
  rw [List.mem_filterMap]
  constructor
  · rintro ⟨entry, hmem, text⟩
    cases entry with
    | str name =>
        obtain rfl := Option.some.inj text
        exact hmem
    | null | bool _ | int _ | float _ | arr _ | obj _ => cases text
  · exact fun hmem => ⟨_, hmem, rfl⟩

theorem readDocumentation_eq_none_iff {fields : Mapping Json} :
    readDocumentation fields = none ↔
      (fields.get? "summary").getD .null = .null ∧
        (fields.get? "description").getD .null = .null := by
  have isNull_iff (value : Json) : value.isNull = true ↔ value = .null := by
    cases value <;> simp [Json.isNull]
  simp only [readDocumentation, ite_eq_left_iff, reduceCtorEq, imp_false, not_not,
    Bool.and_eq_true, isNull_iff]

theorem of_readDocumentation {fields : Mapping Json} {documentation : Documentation}
    (read : readDocumentation fields = some documentation) :
    documentation.summary = (fields.get? "summary").getD .null ∧
      documentation.description = (fields.get? "description").getD .null := by
  simp only [readDocumentation] at read
  split at read
  · cases read
  · obtain rfl := Option.some.inj read
    exact ⟨rfl, rfl⟩

/-- What a definition makes carries what its fields give, whatever it is made of. -/
theorem Reads.carries {fields : Mapping Json} {d : Definition} (reads : Reads fields d) (id : Nat)
    (name : Text) (targets : List DataType) : Carries fields (d.assemble id name targets) := by
  constructor
  case unconstrained =>
    rw [attributes_assemble]
    exact constrains_none_iff reads.constraints
  case constrained =>
    intro constraints given
    rw [attributes_assemble] at given
    exact gives_of_constrains (given ▸ reads.constraints)
  case required =>
    intro property
    rw [DataType.isRequired, isObject_assemble, Bool.true_and, attributes_assemble,
      isRequired_iff_of_constrains reads.constraints]
    simp only [mem_filterMap_asText?_iff]
  case deprecated =>
    obtain ⟨flag, hflag, same⟩ := reads.deprecated
    rw [attributes_assemble, same, hflag]
  case undocumented =>
    rw [attributes_assemble, reads.documentation]
    exact readDocumentation_eq_none_iff
  case documented =>
    intro documentation given
    rw [attributes_assemble, reads.documentation] at given
    exact of_readDocumentation given

end Definition

namespace Loader

/-- A type has the attributes that its name's definition is read with. -/
def OfDefinition (definitions : Mapping Json) (name : Text) (t : DataType) : Prop :=
  ∃ definition d id targets, definitions.get? name = some definition ∧
    Definition.ofJson name definition = .ok d ∧ t = d.assemble id name targets

/-- What loading gives under a name is made by the name's definition. -/
theorem Loads.ofDefinition {document : Json} {l : Loader} {types : Mapping DataType}
    (loads : Loads document l types) :
    types.keys = l.definitions.keys ∧
      ∀ name t, types.get? name = some t → OfDefinition l.definitions name t := by
  obtain ⟨definitions, ts, l₁, rfl, resolves, rfl⟩ := loads.resolves
  have keys := keys_of_resolves resolves
  refine ⟨keys, fun name t known => ?_⟩
  have declared : name ∈ definitions.keys := keys ▸ Mapping.mem_keys_of_get? known
  have explains := (resolves.coherent (coherent_ofDefinitions definitions)) name t
    (kept_of_loaded resolves known)
  rw [resolves.frame.1] at explains
  cases explains with
  | declared _ defined read _ => exact ⟨_, _, _, _, defined, read, rfl⟩
  | primitive _ undeclared _ | unresolved _ undeclared _ =>
      exact absurd declared (Mapping.get?_eq_none_iff.mp undeclared)

theorem OfDefinition.carries {definitions : Mapping Json} {name : Text} {t : DataType}
    (h : OfDefinition definitions name t) :
    ∃ entries, definitions.get? name = some (.obj entries) ∧
      Carries (Mapping.ofList entries) t := by
  obtain ⟨_, d, id, targets, declared, read, rfl⟩ := h
  obtain ⟨entries, rfl, reads⟩ := Definition.ofJson_eq_ok_iff.mp read
  exact ⟨entries, declared, reads.carries id name targets⟩

theorem OfDefinition.attributes_eq {definitions definitions' : Mapping Json} {name : Text}
    {t u : DataType} (h : OfDefinition definitions name t)
    (h' : OfDefinition definitions' name u)
    (same : definitions'.get? name = definitions.get? name) : u.attributes = t.attributes := by
  obtain ⟨definition, d, _, _, declared, read, rfl⟩ := h
  obtain ⟨definition', d', _, _, declared', read', rfl⟩ := h'
  rw [same, declared, Option.some.injEq] at declared'
  subst declared'
  rw [read, Except.ok.injEq] at read'
  rw [Definition.attributes_assemble, Definition.attributes_assemble, read']

/-- Loading gives every declared name a type that carries the metadata of the name's own
definition, all of it and nothing else. Another document that declares the name alike gives it the
same metadata, whatever else it declares. -/
theorem loaded_carries_metadata {document : Json} {l : Loader} {types : Mapping DataType}
    (loads : Loads document l types) :
    types.keys = l.definitions.keys ∧
    (∀ name t, types.get? name = some t → ∃ entries,
      l.definitions.get? name = some (.obj entries) ∧ Carries (Mapping.ofList entries) t) ∧
    ∀ document' l' types', Loads document' l' types' → ∀ name t u,
      types.get? name = some t → types'.get? name = some u →
      l'.definitions.get? name = l.definitions.get? name → u.attributes = t.attributes := by
  obtain ⟨keys, made⟩ := loads.ofDefinition
  refine ⟨keys, fun name t known => (made name t known).carries, ?_⟩
  intro document' l' types' loads' name t u known known' same
  exact (made name t known).attributes_eq (loads'.ofDefinition.2 name u known') same

/-- A document with a keyword set to null, lists that repeat elements, and a type without any
constraint. -/
theorem annotated_document_carries_metadata :
    let document : Json := .obj [("types", .obj [
      ("Pet", .obj [("summary", .str "A pet."), ("deprecated", .bool true), ("minLength", .null),
        ("enum", .arr [.int 1, .int 1]), ("required", .arr [.str "id", .str "id"]),
        ("properties", .obj [("id", .str "Long"), ("owner", .str "Owner")])]),
      ("Owner", .obj [("description", .null)])])]
    ∃ (l : Loader) (types : Mapping DataType), Loads document l types ∧
      types.keys = l.definitions.keys ∧
      (∀ name t, types.get? name = some t → ∃ entries,
        l.definitions.get? name = some (.obj entries) ∧ Carries (Mapping.ofList entries) t) ∧
      ∀ document' l' types', Loads document' l' types' → ∀ name t u,
        types.get? name = some t → types'.get? name = some u →
        l'.definitions.get? name = l.definitions.get? name → u.attributes = t.attributes := by
  intro document
  have loads : Loads document _ _ := ⟨rfl, rfl⟩
  exact ⟨_, _, loads, loaded_carries_metadata loads⟩

end Loader
end TypeGraph
