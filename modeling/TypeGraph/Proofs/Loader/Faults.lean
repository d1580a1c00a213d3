import TypeGraph.Proofs.Loader.Reading

/-!
Why a definition cannot be read. A fault is a graph error which names the definition and says which
field is wrong, whatever value that field has. Only the type keyword is looked up before it is known
to be text, so a list or an object there is no fault of this kind: it fails with an error of its
own.
-/

namespace TypeGraph.Definition

/-- Lists and objects. -/
inductive Compound : Json → Prop
  | arr (items : List Json) : Compound (.arr items)
  | obj (entries : List (Text × Json)) : Compound (.obj entries)

/-- A field that is wrong, and the error that says so. -/
inductive FieldFault (name : Text) (fields : Mapping Json) : GraphError → Prop
  | namespaceText {value : Json} (given : fields.get? "namespace" = some value)
      (bad : ¬ IsText value) : FieldFault name fields (.namespaceNotText name)
  | deprecatedFlag {value : Json} (given : fields.get? "deprecated" = some value)
      (bad : ∀ flag, value ≠ .bool flag) :
      FieldFault name fields (.deprecatedNotFlag name value)
  | requiredNames {value : Json} (given : fields.get? "required" = some value)
      (bad : ∀ names : List Text, value ≠ .arr (names.map .str)) :
      FieldFault name fields (.requiredNotNames name value)
  | enumList {value : Json} (given : fields.get? "enum" = some value)
      (bad : ∀ values, value ≠ .arr values) :
      FieldFault name fields (.enumNotList name value)
  | type {value : Json} (given : fields.get? "type" = some value) (simple : ¬ Compound value)
      (unknown : value ≠ .str "object" ∧ ∀ kind : CompositionKind, value ≠ .str kind.keyword) :
      FieldFault name fields (.unknownType name value)
  | properties {value : Json} (object : (fields.get? "type").getD (.str "object") = .str "object")
      (given : fields.get? "properties" = some value) (bad : ∀ entries, value ≠ .obj entries) :
      FieldFault name fields (.propertiesNotMapping name)
  | items {kind : CompositionKind} {value : Json}
      (composition : (fields.get? "type").getD (.str "object") = .str kind.keyword)
      (given : fields.get? "items" = some value) (bad : ∀ items, value ≠ .arr items) :
      FieldFault name fields (.itemsNotList name)

/-- A definition that is wrong by itself, and the error that says so. -/
inductive Fault (name : Text) (definition : Json) : GraphError → Prop
  | mapping (bad : ∀ entries, definition ≠ .obj entries) :
      Fault name definition (.definitionNotMapping name)
  | field {entries : List (Text × Json)} {g : GraphError} (mapping : definition = .obj entries)
      (fault : FieldFault name (Mapping.ofList entries) g) : Fault name definition g

/-- A list or an object stands for the type, and what is read before it has no fault. -/
structure MiskeyedFields (fields : Mapping Json) (keyword : Json) : Prop where
  namespaceText : IsText ((fields.get? "namespace").getD (.str ""))
  deprecatedFlag : ∃ flag, (fields.get? "deprecated").getD (.bool false) = .bool flag
  constraints : ∃ constraints, Constrains fields constraints
  type : fields.get? "type" = some keyword
  compound : Compound keyword

def Miskeyed (definition keyword : Json) : Prop :=
  ∃ entries, definition = .obj entries ∧ MiskeyedFields (Mapping.ofList entries) keyword

section Readers

variable {name : Text} {fields : Mapping Json} {e : LoadFailure}

theorem fieldFault_of_readNamespace (h : readNamespace name fields = .error e) :
    ∃ g, e = .graph g ∧ FieldFault name fields g := by
  unfold readNamespace at h
  split at h
  · cases h
  · cases h
  · rename_i value other given
    cases h
    exact ⟨_, rfl, .namespaceText given fun ⟨text, same⟩ => other text same⟩

theorem fieldFault_of_readDeprecated (h : readDeprecated name fields = .error e) :
    ∃ g, e = .graph g ∧ FieldFault name fields g := by
  unfold readDeprecated at h
  split at h
  · cases h
  · cases h
  · rename_i value other given
    cases h
    exact ⟨_, rfl, .deprecatedFlag given other⟩

theorem fieldFault_of_readRequired (h : readRequired name fields = .error e) :
    ∃ g, e = .graph g ∧ FieldFault name fields g := by
  unfold readRequired at h
  split at h
  · cases h
  · rename_i value given
    split at h
    · cases h
    · rename_i unread
      cases h
      refine ⟨_, rfl, .requiredNames given fun names same => ?_⟩
      rw [names?_eq_some_iff.mpr same] at unread
      cases unread

theorem fieldFault_of_readEnum (h : readEnum name fields = .error e) :
    ∃ g, e = .graph g ∧ FieldFault name fields g := by
  unfold readEnum at h
  split at h
  · cases h
  · cases h
  · rename_i value other given
    cases h
    exact ⟨_, rfl, .enumList given other⟩

theorem fieldFault_of_readProperties
    (object : (fields.get? "type").getD (.str "object") = .str "object")
    (h : readProperties name fields = .error e) :
    ∃ g, e = .graph g ∧ FieldFault name fields g := by
  unfold readProperties at h
  split at h
  · cases h
  · cases h
  · rename_i value other given
    cases h
    exact ⟨_, rfl, .properties object given other⟩

theorem fieldFault_of_readItems {kind : CompositionKind}
    (composition : (fields.get? "type").getD (.str "object") = .str kind.keyword)
    (h : readItems name fields = .error e) :
    ∃ g, e = .graph g ∧ FieldFault name fields g := by
  unfold readItems at h
  split at h
  · cases h
  · cases h
  · rename_i value other given
    cases h
    exact ⟨_, rfl, .items composition given other⟩

theorem fieldFault_of_readConstraints (h : readConstraints name fields = .error e) :
    ∃ g, e = .graph g ∧ FieldFault name fields g := by
  unfold readConstraints at h
  split at h
  · rcases Except.bind_eq_error_iff.mp h with required | ⟨_, -, h⟩
    · exact fieldFault_of_readRequired required
    · rcases Except.bind_eq_error_iff.mp h with enum | ⟨_, -, h⟩
      · exact fieldFault_of_readEnum enum
      · cases h
  · cases h

/-- The type keyword is the only field with an error that is no graph error. -/
theorem fieldFault_or_compound_of_readShape (h : readShape name fields = .error e) :
    (∃ g, e = .graph g ∧ FieldFault name fields g) ∨
      ∃ keyword, fields.get? "type" = some keyword ∧ Compound keyword ∧
        e = .compoundKeyword keyword.typeName := by
  have given {value : Json} (other : value ≠ .str "object")
      (type : (fields.get? "type").getD (.str "object") = value) :
      fields.get? "type" = some value := by
    cases found : fields.get? "type" with
    | none =>
        rw [found] at type
        exact absurd type.symm other
    | some _ =>
        rw [found] at type
        exact congrArg some type
  unfold readShape at h
  generalize type : (fields.get? "type").getD (.str "object") = keyword at h
  cases keyword with
  | str word =>
      dsimp only at h
      split at h
      · rename_i object
        subst object
        exact .inl (fieldFault_of_readProperties type (Except.map_eq_error_iff.mp h))
      · rename_i other
        have other : Json.str word ≠ .str "object" := fun same => other (Json.str.inj same)
        split at h
        · rename_i kind keyword
          rw [CompositionKind.ofKeyword?_eq_some_iff] at keyword
          subst keyword
          exact .inl (fieldFault_of_readItems type (Except.map_eq_error_iff.mp h))
        · rename_i unknown
          cases h
          refine .inl ⟨_, rfl, .type (given other type) nofun ⟨other, fun kind same => ?_⟩⟩
          rw [Json.str.inj same, CompositionKind.ofKeyword?_keyword] at unknown
          cases unknown
  | arr items =>
      cases h
      exact .inr ⟨.arr items, given nofun type, .arr items, rfl⟩
  | obj entries =>
      cases h
      exact .inr ⟨.obj entries, given nofun type, .obj entries, rfl⟩
  | null | bool _ | int _ | float _ =>
      cases h
      exact .inl ⟨_, rfl, .type (given nofun type) nofun ⟨nofun, nofun⟩⟩

end Readers

section Definitions

variable {name : Text} {definition keyword : Json} {e : LoadFailure}

/-- A definition that cannot be read has a fault, or else a list or an object for its type. -/
theorem fault_or_miskeyed (h : ofJson name definition = .error e) :
    (∃ g, e = .graph g ∧ Fault name definition g) ∨
      ∃ keyword, Miskeyed definition keyword ∧ e = .compoundKeyword keyword.typeName := by
  cases definition with
  | obj entries =>
      have field (h : ∃ g, e = .graph g ∧ FieldFault name (Mapping.ofList entries) g) :
          ∃ g, e = .graph g ∧ Fault name (.obj entries) g :=
        h.imp fun _ fault => ⟨fault.1, .field rfl fault.2⟩
      rcases Except.bind_eq_error_iff.mp h with h | ⟨ns, hns, h⟩
      · exact .inl (field (fieldFault_of_readNamespace h))
      rcases Except.bind_eq_error_iff.mp h with h | ⟨flag, hflag, h⟩
      · exact .inl (field (fieldFault_of_readDeprecated h))
      rcases Except.bind_eq_error_iff.mp h with h | ⟨constraints, hconstraints, h⟩
      · exact .inl (field (fieldFault_of_readConstraints h))
      rcases Except.bind_eq_error_iff.mp h with h | ⟨shape, -, h⟩
      · rcases fieldFault_or_compound_of_readShape h with fault | ⟨keyword, type, compound, rfl⟩
        · exact .inl (field fault)
        · exact .inr ⟨keyword, ⟨entries, rfl, ⟨ns, readNamespace_eq_ok_iff.mp hns⟩,
            ⟨flag, readDeprecated_eq_ok_iff.mp hflag⟩,
            ⟨constraints, readConstraints_eq_ok_iff.mp hconstraints⟩, type, compound⟩, rfl⟩
      · cases h
  | null | bool _ | int _ | float _ | str _ | arr _ =>
      cases h
      exact .inl ⟨_, rfl, .mapping nofun⟩

theorem Miskeyed.ofJson_eq (h : Miskeyed definition keyword) (name : Text) :
    ofJson name definition = .error (.compoundKeyword keyword.typeName) := by
  obtain ⟨entries, rfl, fields⟩ := h
  obtain ⟨ns, hns⟩ := fields.namespaceText
  obtain ⟨flag, hflag⟩ := fields.deprecatedFlag
  obtain ⟨constraints, hconstraints⟩ := fields.constraints
  have shape : readShape name (Mapping.ofList entries) =
      .error (.compoundKeyword keyword.typeName) := by
    unfold readShape
    rw [fields.type, Option.getD_some]
    cases fields.compound <;> rfl
  simp only [ofJson, readNamespace_eq_ok_iff.mpr hns, readDeprecated_eq_ok_iff.mpr hflag,
    readConstraints_eq_ok_iff.mpr hconstraints, shape, bind, Except.bind]

theorem Miskeyed.not_wellFormed (h : Miskeyed definition keyword) : ¬ WellFormed definition := by
  intro wellFormed
  obtain ⟨d, read, -⟩ := (wellFormed_iff "" definition).mp wellFormed
  rw [h.ofJson_eq] at read
  cases read

/-- Failures that are no fault of a single definition. -/
inductive Overall : LoadFailure → Prop
  | exhausted : Overall .exhausted
  | circular (chain : List Text) : Overall (.graph (.circular chain))

theorem ofJson_ne_overall (overall : Overall e) : ofJson name definition ≠ .error e := by
  intro h
  rcases fault_or_miskeyed h with ⟨g, rfl, fault⟩ | ⟨_, -, rfl⟩
  · cases overall with
    | circular chain =>
        cases fault with
        | field _ fault => cases fault
  · cases overall

end Definitions

end TypeGraph.Definition
