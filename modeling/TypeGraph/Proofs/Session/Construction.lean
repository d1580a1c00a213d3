import TypeGraph.Proofs.Except
import TypeGraph.Session

/-!
Building objects by hand. What is built from other objects has all of them: a composition has every
constituent and an object type every property, or else the first one that is missing is reported
and nothing is built. A kind that is none is reported before any of them.
-/

namespace TypeGraph

section Present

variable {α : Type} {owner : Text} {e : BuildError}

theorem presentFields_eq_ok_iff {entries : List (Json × Option α)} {fields : List (Json × α)} :
    presentFields owner entries = .ok fields ↔
      entries = fields.map fun field => (field.1, some field.2) := by
  induction entries generalizing fields with
  | nil => cases fields <;> simp [presentFields]
  | cons entry rest ih =>
      obtain ⟨property, _ | target⟩ := entry
      · cases fields <;> simp [presentFields]
      · simp only [presentFields, Except.bind_eq_ok_iff, ih]
        cases fields with
        | nil => simp
        | cons field fields => grind

theorem presentFields_eq_error_iff {entries : List (Json × Option α)} :
    presentFields owner entries = .error e ↔
      ∃ before property after, entries = before ++ (property, none) :: after ∧
        (∀ entry ∈ before, entry.2 ≠ none) ∧ e = .missingProperty property.display owner := by
  induction entries with
  | nil => simp [presentFields]
  | cons entry rest ih =>
      obtain ⟨property, _ | target⟩ := entry
      · constructor
        · intro failed
          cases failed
          exact ⟨[], property, rest, rfl, nofun, rfl⟩
        · rintro ⟨before, missing, after, split, present, rfl⟩
          cases before with
          | nil =>
              cases split
              rfl
          | cons first before =>
              cases split
              exact absurd rfl (present _ List.mem_cons_self)
      · have later : presentFields owner ((property, some target) :: rest) = .error e ↔
            presentFields owner rest = .error e := by
          rw [presentFields]
          cases presentFields owner rest <;> simp [bind, Except.bind]
        rw [later, ih]
        constructor
        · rintro ⟨before, missing, after, rfl, present, rfl⟩
          exact ⟨(property, some target) :: before, missing, after, rfl, by simpa using present,
            rfl⟩
        · rintro ⟨before, missing, after, split, present, rfl⟩
          cases before with
          | nil => cases split
          | cons first before =>
              cases split
              exact ⟨before, missing, after, rfl,
                fun entry h => present entry (List.mem_cons_of_mem _ h), rfl⟩

theorem presentConstituents_eq_ok_iff {index : Nat} {targets : List (Option α)}
    {constituents : List α} :
    presentConstituents owner index targets = .ok constituents ↔
      targets = constituents.map some := by
  induction targets generalizing index constituents with
  | nil => cases constituents <;> simp [presentConstituents]
  | cons target rest ih =>
      cases target with
      | none => cases constituents <;> simp [presentConstituents]
      | some target =>
          simp only [presentConstituents, Except.bind_eq_ok_iff, ih]
          cases constituents with
          | nil => simp
          | cons constituent constituents => grind

theorem presentConstituents_eq_error_iff {index : Nat} {targets : List (Option α)} :
    presentConstituents owner index targets = .error e ↔
      ∃ before after, targets = before ++ none :: after ∧ none ∉ before ∧
        e = .missingConstituent (index + before.length) owner := by
  induction targets generalizing index with
  | nil => simp [presentConstituents]
  | cons target rest ih =>
      cases target with
      | none =>
          constructor
          · intro failed
            cases failed
            exact ⟨[], rest, rfl, List.not_mem_nil, rfl⟩
          · rintro ⟨before, after, split, present, rfl⟩
            cases before with
            | nil => rfl
            | cons first before =>
                cases split
                exact absurd List.mem_cons_self present
      | some target =>
          have later : presentConstituents owner index (some target :: rest) = .error e ↔
              presentConstituents owner (index + 1) rest = .error e := by
            rw [presentConstituents]
            cases presentConstituents owner (index + 1) rest <;> simp [bind, Except.bind]
          rw [later, ih]
          constructor
          · rintro ⟨before, after, rfl, present, rfl⟩
            refine ⟨some target :: before, after, rfl, by simpa using present, ?_⟩
            rw [List.length_cons, Nat.add_right_comm, Nat.add_assoc]
          · rintro ⟨before, after, split, present, rfl⟩
            cases before with
            | nil => cases split
            | cons first before =>
                cases split
                refine ⟨before, after, rfl, fun h => present (List.mem_cons_of_mem _ h), ?_⟩
                rw [List.length_cons, Nat.add_right_comm, Nat.add_assoc]

end Present

namespace CompositionKind

theorem ofJson?_eq_some_iff {value : Json} {kind : CompositionKind} :
    ofJson? value = some kind ↔ value = .str kind.keyword := by
  cases value with
  | str word => rw [ofJson?, ofKeyword?_eq_some_iff, Json.str.injEq]
  | null | bool _ | int _ | float _ | arr _ | obj _ => simp [ofJson?]

theorem parse_eq_ok_iff {value : Json} {kind : CompositionKind} :
    parse value = .ok kind ↔ value = .str kind.keyword := by
  rw [← ofJson?_eq_some_iff, parse]
  cases ofJson? value <;> simp

theorem parse_eq_error_iff {value : Json} {e : BuildError} :
    parse value = .error e ↔ (∀ kind : CompositionKind, value ≠ .str kind.keyword) ∧
      e = .unknownKind value := by
  simp only [ne_eq, ← ofJson?_eq_some_iff, parse]
  cases ofJson? value <;> simp [eq_comm]

end CompositionKind

namespace Session

/-- Why a composition is not built. -/
inductive CompositionFault (owner kind : Json) (targets : List (Option Item)) : BuildError → Prop
  | kind (unknown : ∀ k : CompositionKind, kind ≠ .str k.keyword) :
      CompositionFault owner kind targets (.unknownKind kind)
  | constituent {k : CompositionKind} {before after : List (Option Item)}
      (known : kind = .str k.keyword) (split : targets = before ++ none :: after)
      (present : none ∉ before) :
      CompositionFault owner kind targets (.missingConstituent before.length owner.display)

/-- Why an object type is not built. -/
inductive ObjectFault (owner : Json) (properties : Json.Table (Option Item)) : BuildError → Prop
  | property {before after : List (Json × Option Item)} {property : Json}
      (split : properties.entries = before ++ (property, none) :: after)
      (present : ∀ entry ∈ before, entry.2 ≠ none) :
      ObjectFault owner properties (.missingProperty property.display owner.display)

/-- A composition cannot be built exactly if its kind is none or a constituent is missing. -/
theorem exists_compositionFault_iff (owner : Json) {kind : Json} {targets : List (Option Item)} :
    (∃ e, CompositionFault owner kind targets e) ↔
      (∀ k : CompositionKind, kind ≠ .str k.keyword) ∨ none ∈ targets := by
  constructor
  · rintro ⟨e, fault⟩
    cases fault with
    | kind unknown => exact .inl unknown
    | constituent known split present => exact .inr (by simp [split])
  · intro faulty
    by_cases known : ∃ k : CompositionKind, kind = .str k.keyword
    · obtain ⟨k, known⟩ := known
      have missing := faulty.resolve_left fun unknown => unknown k known
      obtain ⟨before, after, split, present⟩ := List.eq_append_cons_of_mem missing
      exact ⟨_, .constituent known split present⟩
    · exact ⟨_, .kind (not_exists.mp known)⟩

/-- An object type cannot be built exactly if a property has no target. -/
theorem exists_objectFault_iff (owner : Json) {properties : Json.Table (Option Item)} :
    (∃ e, ObjectFault owner properties e) ↔ none ∈ properties.values := by
  constructor
  · rintro ⟨e, split, present⟩
    simp [Json.Table.values, split]
  · intro missing
    obtain ⟨before, after, split, present⟩ := List.eq_append_cons_of_mem missing
    obtain ⟨first, rest, entries, rfl, tail⟩ := List.map_eq_append_iff.mp split
    obtain ⟨⟨property, target⟩, rest, rfl, rfl, rfl⟩ := List.map_eq_cons_iff.mp tail
    exact ⟨_, .property entries fun entry mem absent =>
      present (absent ▸ List.mem_map_of_mem mem)⟩

namespace Item

variable {id : Nat} {carried : Carried Item} {name ns kind : Json} {item : Item} {e : BuildError}

theorem buildComposition_eq_ok_iff {targets : List (Option Item)} :
    buildComposition id carried name ns kind targets = .ok item ↔
      ∃ k constituents, kind = .str (CompositionKind.keyword k) ∧
        targets = List.map some constituents ∧
        item = .type id carried name ns (.composed k constituents) := by
  simp only [buildComposition, Except.bind_eq_ok_iff, CompositionKind.parse_eq_ok_iff,
    presentConstituents_eq_ok_iff, Except.ok.injEq]
  grind

theorem buildComposition_eq_error_iff {targets : List (Option Item)} :
    buildComposition id carried name ns kind targets = .error e ↔
      CompositionFault name kind targets e := by
  constructor
  · intro failed
    rw [buildComposition] at failed
    cases parsed : CompositionKind.parse kind with
    | error e' =>
        simp only [parsed, Bind.bind, Except.bind, Except.error.injEq] at failed
        subst failed
        obtain ⟨unknown, rfl⟩ := CompositionKind.parse_eq_error_iff.mp parsed
        exact .kind unknown
    | ok k =>
        cases present : presentConstituents name.display 0 targets with
        | error e' =>
            simp only [parsed, present, Bind.bind, Except.bind, Except.error.injEq] at failed
            subst failed
            obtain ⟨before, after, split, whole, rfl⟩ :=
              presentConstituents_eq_error_iff.mp present
            rw [Nat.zero_add]
            exact .constituent (CompositionKind.parse_eq_ok_iff.mp parsed) split whole
        | ok constituents => simp [parsed, present, Bind.bind, Except.bind] at failed
  · intro fault
    cases fault with
    | kind unknown =>
        rw [buildComposition, CompositionKind.parse_eq_error_iff.mpr ⟨unknown, rfl⟩]
        rfl
    | @constituent k before after known split present =>
        have missing : presentConstituents name.display 0 targets =
            .error (.missingConstituent (0 + before.length) name.display) :=
          presentConstituents_eq_error_iff.mpr ⟨before, after, split, present, rfl⟩
        rw [buildComposition, CompositionKind.parse_eq_ok_iff.mpr known, missing, Nat.zero_add]
        rfl

theorem buildObject_eq_ok_iff {properties : Json.Table (Option Item)} :
    buildObject id carried name ns properties = .ok item ↔
      ∃ fields, properties.entries = List.map (fun field => (field.1, some field.2)) fields ∧
        item = .type id carried name ns (.object fields) := by
  simp only [buildObject, Except.bind_eq_ok_iff, presentFields_eq_ok_iff, Except.ok.injEq]
  grind

theorem buildObject_eq_error_iff {properties : Json.Table (Option Item)} :
    buildObject id carried name ns properties = .error e ↔ ObjectFault name properties e := by
  have reported : buildObject id carried name ns properties = .error e ↔
      presentFields name.display properties.entries = .error e := by
    rw [buildObject]
    cases presentFields name.display properties.entries <;> simp [Bind.bind, Except.bind]
  rw [reported, presentFields_eq_error_iff]
  constructor
  · rintro ⟨before, property, after, split, present, rfl⟩
    exact .property split present
  · rintro ⟨split, present⟩
    exact ⟨_, _, _, split, present, rfl⟩

end Item

/-- The objects that the names in a list are bound to, in order; null is the name of none. -/
def FindsEach (s : Session) (names : Json) (targets : List (Option Item)) : Prop :=
  ∃ items, listed names = .ok items ∧ items.mapM s.lookupUnlessNull = .ok targets

section Build

variable {s : Session} {carried : Carried Item} {typeName ns kind : Json} {item : Item} {e : Error}

theorem build_composition_eq {constituents : Json} {targets : List (Option Item)}
    (finds : s.FindsEach constituents targets) :
    s.build carried (.composition typeName ns kind constituents) =
      (Item.buildComposition s.built carried typeName ns kind targets).mapError .build := by
  obtain ⟨items, listed, found⟩ := finds
  simp [build, listed, found, Bind.bind, Except.bind]

theorem build_object_eq {properties : Json} {targets : Json.Table (Option Item)}
    (finds : lookupTable s.lookupUnlessNull properties = .ok targets) :
    s.build carried (.object typeName ns properties) =
      (Item.buildObject s.built carried typeName ns targets).mapError .build := by
  simp [build, finds, Bind.bind, Except.bind]

/-- Given its constituents, a composition is built exactly if its kind is one and none of them is
missing, and then from all of them. -/
theorem build_composition_eq_ok_iff {constituents : Json} {targets : List (Option Item)}
    (finds : s.FindsEach constituents targets) :
    s.build carried (.composition typeName ns kind constituents) = .ok item ↔
      ∃ k items, kind = .str (CompositionKind.keyword k) ∧ targets = List.map some items ∧
        item = .type s.built carried typeName ns (.composed k items) := by
  rw [build_composition_eq finds, Except.mapError_eq_ok_iff, Item.buildComposition_eq_ok_iff]

theorem build_composition_eq_error_iff {constituents : Json} {targets : List (Option Item)}
    (finds : s.FindsEach constituents targets) :
    s.build carried (.composition typeName ns kind constituents) = .error e ↔
      ∃ fault, CompositionFault typeName kind targets fault ∧ e = .build fault := by
  rw [build_composition_eq finds, Except.mapError_eq_error_iff]
  simp only [Item.buildComposition_eq_error_iff]

theorem build_object_eq_ok_iff {properties : Json} {targets : Json.Table (Option Item)}
    (finds : lookupTable s.lookupUnlessNull properties = .ok targets) :
    s.build carried (.object typeName ns properties) = .ok item ↔
      ∃ fields, targets.entries = List.map (fun field => (field.1, some field.2)) fields ∧
        item = .type s.built carried typeName ns (.object fields) := by
  rw [build_object_eq finds, Except.mapError_eq_ok_iff, Item.buildObject_eq_ok_iff]

theorem build_object_eq_error_iff {properties : Json} {targets : Json.Table (Option Item)}
    (finds : lookupTable s.lookupUnlessNull properties = .ok targets) :
    s.build carried (.object typeName ns properties) = .error e ↔
      ∃ fault, ObjectFault typeName targets fault ∧ e = .build fault := by
  rw [build_object_eq finds, Except.mapError_eq_error_iff]
  simp only [Item.buildObject_eq_error_iff]

end Build

end Session
end TypeGraph
