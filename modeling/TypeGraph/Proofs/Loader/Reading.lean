import Mathlib.Logic.Basic
import TypeGraph.Loader.Definition
import TypeGraph.Proofs.Except

/-!
What a definition says by itself, read off its fields without regard to the order in which they
are checked. A definition is well-formed when each of its fields is and all its references are
text; exactly these definitions are read without a fault and can be followed.
-/

namespace TypeGraph

/-- What a shape refers to, in order and with repetitions. -/
def Shape.references : Shape → List Json
  | .object properties => properties.values
  | .composition _ items => items

namespace Definition

def IsText (value : Json) : Prop := ∃ text, value = .str text

/-- The shape that fields describe. A definition is an object unless its type says otherwise. -/
inductive Describes (fields : Mapping Json) : Shape → Prop
  | object {properties : List (Text × Json)}
      (type : (fields.get? "type").getD (.str "object") = .str "object")
      (parts : (fields.get? "properties").getD (.obj []) = .obj properties) :
      Describes fields (.object (Mapping.ofList properties))
  | composition {kind : CompositionKind} {items : List Json}
      (type : (fields.get? "type").getD (.str "object") = .str kind.keyword)
      (parts : (fields.get? "items").getD (.arr []) = .arr items) :
      Describes fields (.composition kind items)

/-- Every field is of the type that it should have, and every reference is text. -/
structure WellFormedFields (fields : Mapping Json) : Prop where
  namespaceText : IsText ((fields.get? "namespace").getD (.str ""))
  deprecatedFlag : ∃ flag, (fields.get? "deprecated").getD (.bool false) = .bool flag
  requiredNames : ∀ value, fields.get? "required" = some value →
    ∃ names, value = .arr names ∧ ∀ name ∈ names, IsText name
  enumList : ∀ value, fields.get? "enum" = some value → ∃ values, value = .arr values
  shape : ∃ shape, Describes fields shape ∧ ∀ ref ∈ shape.references, IsText ref

/-- A definition that can be read and followed, whatever it refers to. -/
def WellFormed (definition : Json) : Prop :=
  ∃ entries, definition = .obj entries ∧ WellFormedFields (Mapping.ofList entries)

/-- The definition has the name as a property's value or among its items. -/
def Mentions (definition : Json) (name : Text) : Prop :=
  ∃ entries shape, definition = .obj entries ∧
    Describes (Mapping.ofList entries) shape ∧ .str name ∈ shape.references

/-- The constraints that fields give. -/
inductive Constrains (fields : Mapping Json) : Option Constraints → Prop
  | none (absent : ∀ keyword : Keyword, fields.get? keyword.word = none) : Constrains fields none
  | some {keyword : Keyword} {enum : Option (List Json)} {names : List Json}
      (present : fields.get? keyword.word ≠ none)
      (required : (fields.get? "required").getD (.arr []) = .arr names)
      (text : ∀ name ∈ names, IsText name)
      (values : fields.get? "enum" = enum.map .arr) :
      Constrains fields (some (.ofValues (fun k => fields.get? k.word) enum names))

/-- What reading makes of fields. -/
structure Reads (fields : Mapping Json) (d : Definition) : Prop where
  ns : (fields.get? "namespace").getD (.str "") = .str d.ns
  deprecated : ∃ flag, (fields.get? "deprecated").getD (.bool false) = .bool flag ∧
    d.attributes.deprecated = .bool flag
  constraints : Constrains fields d.attributes.constraints
  documentation : d.attributes.documentation = readDocumentation fields
  shape : Describes fields d.shape

theorem references_eq (d : Definition) : d.references = d.shape.references := by
  obtain ⟨ns, attributes, shape⟩ := d
  cases shape <;> rfl

theorem names?_eq_some_iff {value : Json} {names : List Text} :
    names? value = some names ↔ value = .arr (names.map .str) := by
  cases value with
  | arr items =>
      simp only [names?, Json.arr.injEq]
      induction items generalizing names with
      | nil => cases names <;> simp
      | cons item items ih =>
          rw [List.mapM_cons]
          cases item with
          | str text =>
              cases names with
              | nil => cases items.mapM Json.asText? <;> simp [Json.asText?]
              | cons name names =>
                  rw [List.map_cons, List.cons.injEq, Json.str.injEq, ← ih]
                  cases items.mapM Json.asText? <;> simp [Json.asText?]
          | null | bool _ | int _ | float _ | arr _ | obj _ =>
              cases names <;> simp [Json.asText?]
  | null | bool _ | int _ | float _ | str _ | obj _ => simp [names?]

theorem isText_iff_exists_names {items : List Json} :
    (∀ item ∈ items, IsText item) ↔ ∃ names : List Text, items = names.map .str := by
  constructor
  · intro text
    induction items with
    | nil => exact ⟨[], rfl⟩
    | cons item items ih =>
        obtain ⟨name, rfl⟩ := text item (by simp)
        obtain ⟨names, rfl⟩ := ih fun item h => text item (by simp [h])
        exact ⟨name :: names, rfl⟩
  · rintro ⟨names, rfl⟩ item h
    obtain ⟨name, _, rfl⟩ := List.mem_map.mp h
    exact ⟨name, rfl⟩

theorem readNamespace_eq_ok_iff {name ns : Text} {fields : Mapping Json} :
    readNamespace name fields = .ok ns ↔
      (fields.get? "namespace").getD (.str "") = .str ns := by
  unfold readNamespace
  cases fields.get? "namespace" with
  | none => simp
  | some value => cases value <;> simp

theorem readDeprecated_eq_ok_iff {name : Text} {flag : Bool} {fields : Mapping Json} :
    readDeprecated name fields = .ok flag ↔
      (fields.get? "deprecated").getD (.bool false) = .bool flag := by
  unfold readDeprecated
  cases fields.get? "deprecated" with
  | none => simp
  | some value => cases value <;> simp

theorem readRequired_eq_ok_iff {name : Text} {names : List Json} {fields : Mapping Json} :
    readRequired name fields = .ok names ↔
      (fields.get? "required").getD (.arr []) = .arr names ∧ ∀ entry ∈ names, IsText entry := by
  unfold readRequired Keyword.word
  cases fields.get? "required" with
  | none => simpa [eq_comm] using fun h => by simp [h]
  | some value =>
      simp only [Option.getD_some, isText_iff_exists_names]
      cases h : names? value with
      | none =>
          have unread (texts : List Text) : value ≠ .arr (texts.map .str) :=
            fun hv => by simp [names?_eq_some_iff.mpr hv] at h
          simp only [reduceCtorEq, false_iff, not_and, not_exists]
          rintro hv texts rfl
          exact unread texts hv
      | some texts =>
          rw [names?_eq_some_iff] at h
          subst h
          simp only [Except.ok.injEq, Json.arr.injEq]
          exact ⟨fun h => ⟨h, texts, h.symm⟩, fun h => h.1⟩

theorem readEnum_eq_ok_iff {name : Text} {enum : Option (List Json)} {fields : Mapping Json} :
    readEnum name fields = .ok enum ↔ fields.get? "enum" = enum.map .arr := by
  unfold readEnum Keyword.word
  cases fields.get? "enum" with
  | none => cases enum <;> simp
  | some value => cases value <;> cases enum <;> simp

theorem any_keyword_iff {fields : Mapping Json} :
    Keyword.all.any (fun k => fields.contains k.word) = true ↔
      ∃ keyword : Keyword, fields.get? keyword.word ≠ none := by
  rw [List.any_eq_true]
  constructor
  · rintro ⟨keyword, -, h⟩
    rw [← Mapping.mem_keys_iff_contains, ← Mapping.isSome_get?_iff] at h
    exact ⟨keyword, Option.isSome_iff_ne_none.mp h⟩
  · rintro ⟨keyword, h⟩
    refine ⟨keyword, keyword.mem_all, ?_⟩
    rw [← Mapping.mem_keys_iff_contains, ← Mapping.isSome_get?_iff]
    exact Option.isSome_iff_ne_none.mpr h

theorem readConstraints_eq_ok_iff {name : Text} {constraints : Option Constraints}
    {fields : Mapping Json} :
    readConstraints name fields = .ok constraints ↔ Constrains fields constraints := by
  unfold readConstraints
  split
  · rename_i present
    obtain ⟨keyword, present⟩ := any_keyword_iff.mp present
    simp only [Except.bind_eq_ok_iff, readRequired_eq_ok_iff, readEnum_eq_ok_iff, Except.ok.injEq]
    constructor
    · rintro ⟨names, ⟨required, text⟩, enum, values, rfl⟩
      exact .some present required text values
    · intro h
      cases h with
      | none absent => exact absurd (absent keyword) present
      | some _ required text values => exact ⟨_, ⟨required, text⟩, _, values, rfl⟩
  · rename_i absent
    rw [any_keyword_iff, not_exists] at absent
    constructor
    · rintro ⟨⟩
      exact .none fun keyword => not_not.mp (absent keyword)
    · intro h
      cases h with
      | none _ => rfl
      | some present _ _ _ => exact absurd present (absent _)

theorem readProperties_eq_ok_iff {name : Text} {properties : Mapping Json}
    {fields : Mapping Json} :
    readProperties name fields = .ok properties ↔
      ∃ entries, (fields.get? "properties").getD (.obj []) = .obj entries ∧
        Mapping.ofList entries = properties := by
  unfold readProperties
  cases fields.get? "properties" with
  | none => simp [Mapping.ofList, Mapping.setAll]
  | some value => cases value <;> simp

theorem readItems_eq_ok_iff {name : Text} {items : List Json} {fields : Mapping Json} :
    readItems name fields = .ok items ↔ (fields.get? "items").getD (.arr []) = .arr items := by
  unfold readItems
  cases fields.get? "items" with
  | none => simp
  | some value => cases value <;> simp

theorem readShape_eq_ok_iff {name : Text} {shape : Shape} {fields : Mapping Json} :
    readShape name fields = .ok shape ↔ Describes fields shape := by
  constructor
  · intro h
    unfold readShape at h
    split at h
    · rename_i word type
      split at h
      · rename_i object
        subst object
        obtain ⟨_, read, rfl⟩ := Except.map_eq_ok_iff.mp h
        obtain ⟨entries, parts, rfl⟩ := readProperties_eq_ok_iff.mp read
        exact .object type parts
      · split at h
        · rename_i kind keyword
          rw [CompositionKind.ofKeyword?_eq_some_iff] at keyword
          subst keyword
          obtain ⟨items, read, rfl⟩ := Except.map_eq_ok_iff.mp h
          exact .composition type (readItems_eq_ok_iff.mp read)
        · cases h
    all_goals cases h
  · intro h
    cases h with
    | object type parts =>
        simp only [readShape, type, if_true]
        exact Except.map_eq_ok_iff.mpr ⟨_, readProperties_eq_ok_iff.mpr ⟨_, parts, rfl⟩, rfl⟩
    | @composition kind items type parts =>
        have other : kind.keyword ≠ "object" := by cases kind <;> decide
        simp only [readShape, type, other, if_false, CompositionKind.ofKeyword?_keyword]
        exact Except.map_eq_ok_iff.mpr ⟨_, readItems_eq_ok_iff.mpr parts, rfl⟩

theorem ofJson_eq_ok_iff {name : Text} {definition : Json} {d : Definition} :
    ofJson name definition = .ok d ↔
      ∃ entries, definition = .obj entries ∧ Reads (Mapping.ofList entries) d := by
  cases definition with
  | obj entries =>
      simp only [ofJson, Except.bind_eq_ok_iff, readNamespace_eq_ok_iff, readDeprecated_eq_ok_iff,
        readConstraints_eq_ok_iff, readShape_eq_ok_iff, Json.obj.injEq, Except.ok.injEq]
      constructor
      · rintro ⟨ns, hns, flag, hflag, constraints, hc, shape, hshape, rfl⟩
        exact ⟨entries, rfl, hns, ⟨flag, hflag, rfl⟩, hc, rfl, hshape⟩
      · rintro ⟨_, rfl, h⟩
        obtain ⟨flag, hflag, same⟩ := h.deprecated
        refine ⟨d.ns, h.ns, flag, hflag, d.attributes.constraints, h.constraints, d.shape,
          h.shape, ?_⟩
        rw [← same, ← h.documentation]
  | null | bool _ | int _ | float _ | str _ | arr _ => simp [ofJson]

theorem Describes.unique {fields : Mapping Json} {s t : Shape} (hs : Describes fields s)
    (ht : Describes fields t) : s = t := by
  have object (kind : CompositionKind) : kind.keyword ≠ "object" := by cases kind <;> decide
  cases hs with
  | object type parts =>
      cases ht with
      | object type' parts' =>
          rw [parts, Json.obj.injEq] at parts'
          rw [parts']
      | @composition kind _ type' _ =>
          rw [type, Json.str.injEq] at type'
          exact absurd type'.symm (object kind)
  | @composition kind _ type parts =>
      cases ht with
      | object type' _ =>
          rw [type, Json.str.injEq] at type'
          exact absurd type' (object kind)
      | composition type' parts' =>
          rw [type, Json.str.injEq] at type'
          rw [parts, Json.arr.injEq] at parts'
          rw [CompositionKind.keyword_injective type', parts']

theorem exists_constrains_iff {fields : Mapping Json} :
    (∃ constraints, Constrains fields constraints) ↔
      (∀ value, fields.get? "required" = some value →
        ∃ names, value = .arr names ∧ ∀ name ∈ names, IsText name) ∧
      ∀ value, fields.get? "enum" = some value → ∃ values, value = .arr values := by
  constructor
  · rintro ⟨_, absent | ⟨-, required, text, enum⟩⟩
    · have noRequired : fields.get? "required" = none := absent .required
      have noEnum : fields.get? "enum" = none := absent .enum
      simp [noRequired, noEnum]
    · refine ⟨fun value h => ⟨_, ?_, text⟩, fun value h => ?_⟩
      · rwa [h, Option.getD_some] at required
      · rw [h] at enum
        obtain ⟨values, -, rfl⟩ := Option.map_eq_some_iff.mp enum.symm
        exact ⟨values, rfl⟩
  · rintro ⟨required, enum⟩
    by_cases present : ∃ keyword : Keyword, fields.get? keyword.word ≠ none
    · obtain ⟨keyword, present⟩ := present
      obtain ⟨names, hnames, text⟩ : ∃ names,
          (fields.get? "required").getD (.arr []) = .arr names ∧ ∀ name ∈ names, IsText name := by
        cases h : fields.get? "required" with
        | none => exact ⟨[], rfl, by simp⟩
        | some value => exact required value h
      obtain ⟨values, hvalues⟩ : ∃ values : Option (List Json),
          fields.get? "enum" = values.map .arr := by
        cases h : fields.get? "enum" with
        | none => exact ⟨none, rfl⟩
        | some value =>
            obtain ⟨values, rfl⟩ := enum value h
            exact ⟨some values, rfl⟩
      exact ⟨_, .some present hnames text hvalues⟩
    · rw [not_exists] at present
      exact ⟨none, .none fun keyword => not_not.mp (present keyword)⟩

/-- Well-formed are the definitions that are read without a fault and refer to nothing but text. -/
theorem wellFormed_iff (name : Text) (definition : Json) :
    WellFormed definition ↔
      ∃ d, ofJson name definition = .ok d ∧ ∀ ref ∈ d.references, IsText ref := by
  constructor
  · rintro ⟨entries, rfl, h⟩
    obtain ⟨ns, hns⟩ := h.namespaceText
    obtain ⟨flag, hflag⟩ := h.deprecatedFlag
    obtain ⟨shape, hshape, text⟩ := h.shape
    obtain ⟨constraints, hc⟩ := exists_constrains_iff.mpr ⟨h.requiredNames, h.enumList⟩
    refine ⟨⟨ns, ⟨constraints, .bool flag, readDocumentation (Mapping.ofList entries)⟩, shape⟩,
      ?_, ?_⟩
    · exact ofJson_eq_ok_iff.mpr ⟨entries, rfl, hns, ⟨flag, hflag, rfl⟩, hc, rfl, hshape⟩
    · rw [references_eq]
      exact text
  · rintro ⟨d, hd, text⟩
    obtain ⟨entries, rfl, h⟩ := ofJson_eq_ok_iff.mp hd
    obtain ⟨required, enum⟩ := exists_constrains_iff.mp ⟨_, h.constraints⟩
    obtain ⟨flag, hflag, _⟩ := h.deprecated
    rw [references_eq] at text
    exact ⟨entries, rfl, ⟨d.ns, h.ns⟩, ⟨flag, hflag⟩, required, enum, d.shape, h.shape, text⟩

/-- A definition that is read mentions exactly the text among its references. -/
theorem mentions_iff {name : Text} {definition : Json} {d : Definition}
    (read : ofJson name definition = .ok d) (mentioned : Text) :
    Mentions definition mentioned ↔ .str mentioned ∈ d.references := by
  obtain ⟨entries, rfl, h⟩ := ofJson_eq_ok_iff.mp read
  rw [references_eq]
  constructor
  · rintro ⟨entries', shape, same, described, hmem⟩
    obtain rfl := Json.obj.inj same
    rwa [← described.unique h.shape]
  · intro hmem
    exact ⟨entries, d.shape, rfl, h.shape, hmem⟩

end Definition
end TypeGraph
