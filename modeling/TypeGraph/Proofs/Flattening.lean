import TypeGraph.Model.DataType
import TypeGraph.Proofs.Merging

/-!
Flattening of nested compositions. The properties of a composition are merged level by level;
here they are shown to be one merge of the object types below it, from left to right and with
repetitions. Types reached through a `oneOf` or `anyOf` composition take no part in it.
-/

namespace TypeGraph.DataType

/-- Induction over a type and everything that it is made of. -/
theorem induction_on_parts {P : DataType → Prop}
    (primitive : ∀ id a kind, P (.primitive id a kind))
    (unresolved : ∀ id a name, P (.unresolved id a name))
    (object : ∀ id a name ns fields, (∀ e ∈ fields, P e.2) → P (.object id a name ns fields))
    (composed : ∀ id a name ns kind constituents, (∀ t ∈ constituents, P t) →
      P (.composed id a name ns kind constituents)) (t : DataType) : P t := by
  refine @DataType.rec P (fun fields => ∀ e ∈ fields, P e.2) (fun l => ∀ t ∈ l, P t)
    (fun e => P e.2) primitive unresolved object composed ?_ ?_ ?_ ?_ ?_ t
  · simp
  · intro e fields he hfields
    exact List.forall_mem_cons.mpr ⟨he, hfields⟩
  · simp
  · intro t l ht hl
    exact List.forall_mem_cons.mpr ⟨ht, hl⟩
  · exact fun _ _ ht => ht

mutual

/-- The object types that a type merges, in order and with repetitions. -/
def leaves : DataType → List DataType
  | object id a name ns fields => [object id a name ns fields]
  | composed _ _ _ _ .allOf constituents => leavesOfEach constituents
  | _ => []

def leavesOfEach : List DataType → List DataType
  | [] => []
  | t :: rest => leaves t ++ leavesOfEach rest

end

theorem leavesOfEach_eq (l : List DataType) : leavesOfEach l = l.flatMap leaves := by
  induction l with
  | nil => rfl
  | cons t l ih => rw [leavesOfEach, ih, List.flatMap_cons]

theorem leaves_allOf (id : Nat) (a : Attributes) (name ns : Text)
    (constituents : List DataType) :
    (composed id a name ns .allOf constituents).leaves = constituents.flatMap leaves := by
  rw [leaves, leavesOfEach_eq]

theorem leaves_of_unflattened {kind : CompositionKind} (h : kind ≠ .allOf) {id : Nat}
    {a : Attributes} {name ns : Text} {constituents : List DataType} :
    (composed id a name ns kind constituents).leaves = [] := by
  cases kind with
  | allOf => exact absurd rfl h
  | oneOf | anyOf => rfl

theorem leaves_eq_nil {t : DataType} (h : t.isObject = false) : t.leaves = [] := by
  cases t with
  | primitive _ _ _ | unresolved _ _ _ => rfl
  | object _ _ _ _ _ | composed _ _ _ _ _ _ => simp [isObject] at h

theorem leaves_filter_isObject (l : List DataType) :
    (l.filter isObject).flatMap leaves = l.flatMap leaves := by
  induction l with
  | nil => rfl
  | cons t l ih =>
      cases h : t.isObject with
      | true => rw [List.filter_cons_of_pos h, List.flatMap_cons, List.flatMap_cons, ih]
      | false => simp [h, ih, leaves_eq_nil h]

theorem merge_propertiesOfEach (l : List DataType)
    (flat : ∀ t ∈ l, t.properties = Mapping.merge (t.leaves.map properties)) :
    Mapping.merge (propertiesOfEach l) = Mapping.merge ((l.flatMap leaves).map properties) := by
  let groups := (l.filter isObject).map fun t => t.leaves.map properties
  have grouped : propertiesOfEach l = groups.map Mapping.merge := by
    rw [propertiesOfEach_eq, List.map_map]
    exact List.map_congr_left fun t ht => flat t (List.mem_filter.mp ht).1
  have flattened : groups.flatten = (l.flatMap leaves).map properties := by
    rw [← leaves_filter_isObject, List.map_flatMap]
    rfl
  rw [grouped, Mapping.merge_map_merge, flattened]

/-- Merging level by level is merging all leaves at once. -/
theorem properties_eq_merge_leaves (t : DataType) :
    t.properties = Mapping.merge (t.leaves.map properties) := by
  induction t using induction_on_parts with
  | primitive _ _ _ | unresolved _ _ _ => rfl
  | object id a name ns fields _ =>
      rw [leaves, List.map_singleton, Mapping.merge_singleton]
  | composed id a name ns kind constituents ih =>
      cases kind with
      | allOf => rw [leaves_allOf, ← merge_propertiesOfEach constituents ih, properties]
      | oneOf | anyOf => rfl

theorem isObject_of_mem_leaves {t leaf : DataType} (h : leaf ∈ t.leaves) :
    ∃ id a name ns fields, leaf = .object id a name ns fields := by
  induction t using induction_on_parts with
  | primitive _ _ _ | unresolved _ _ _ => simp [leaves] at h
  | object id a name ns fields _ =>
      rw [leaves, List.mem_singleton] at h
      exact ⟨id, a, name, ns, fields, h⟩
  | composed id a name ns kind constituents ih =>
      cases kind with
      | allOf =>
          rw [leaves_allOf, List.mem_flatMap] at h
          obtain ⟨t, ht, hleaf⟩ := h
          exact ih t ht hleaf
      | oneOf | anyOf => simp [leaves] at h

/-- What a type is directly made of. -/
def parts : DataType → List DataType
  | object _ _ _ _ fields => fields.map Prod.snd
  | composed _ _ _ _ _ constituents => constituents
  | _ => []

/-- Whatever a type shows is one of its parts or shown by one of them. -/
theorem mem_parts_of_mem_children {t child : DataType} (h : child ∈ t.children) :
    child ∈ t.parts ∨ ∃ part ∈ t.parts, child ∈ part.children := by
  cases t with
  | primitive _ _ _ | unresolved _ _ _ => exact absurd h List.not_mem_nil
  | object id a name ns fields =>
      have h : child ∈ (Mapping.ofList fields).values := by
        simpa [children, properties, constituents] using h
      exact .inl (Mapping.mem_values_ofList h)
  | composed id a name ns kind constituents =>
      rcases List.mem_append.mp h with h | h
      · cases kind with
        | allOf =>
            obtain ⟨m, hm, h⟩ := Mapping.mem_values_merge h
            rw [propertiesOfEach_eq] at hm
            obtain ⟨part, hpart, rfl⟩ := List.mem_map.mp hm
            exact .inr ⟨part, List.mem_of_mem_filter hpart, List.mem_append_left _ h⟩
        | oneOf | anyOf => exact absurd h List.not_mem_nil
      · exact .inl h

/-- One type is another in which, at some depth, the constituents of a nested `allOf` composition
have taken its place. -/
inductive Spliced : DataType → DataType → Prop
  | here {id id' : Nat} {a a' : Attributes} {name name' ns ns' : Text} {kind : CompositionKind}
      {before inner after : List DataType} :
      Spliced (.composed id a name ns kind
          (before ++ .composed id' a' name' ns' .allOf inner :: after))
        (.composed id a name ns kind (before ++ inner ++ after))
  | inside {id : Nat} {a : Attributes} {name ns : Text} {kind : CompositionKind}
      {before after : List DataType} {t t' : DataType} (part : Spliced t t') :
      Spliced (.composed id a name ns kind (before ++ t :: after))
        (.composed id a name ns kind (before ++ t' :: after))

theorem Spliced.leaves_eq {t t' : DataType} (h : Spliced t t') : t'.leaves = t.leaves := by
  induction h with
  | @here _ _ _ _ _ _ _ _ kind before inner after =>
      cases kind with
      | allOf => simp [leaves_allOf]
      | oneOf | anyOf => rfl
  | @inside _ _ _ _ kind before after t t' _ ih =>
      cases kind with
      | allOf => simp [leaves_allOf, ih]
      | oneOf | anyOf => rfl

/-- Nested flattening is flat merging: each property that a leaf declares stands once, where the
leaves first declare it, and has the type that the last leaf to declare it gives. Which nested
compositions the leaves come from makes no difference. -/
theorem composed_properties_flat (id : Nat) (a : Attributes) (name ns : Text)
    (kind : CompositionKind) (constituents : List DataType) :
    let c := composed id a name ns kind constituents
    c.properties.keys.Nodup ∧
      c.properties.keys = (c.leaves.flatMap fun leaf => leaf.properties.keys).eraseDups ∧
      (∀ property, c.properties.get? property =
        c.leaves.reverse.findSome? fun leaf => leaf.properties.get? property) ∧
      ∀ c', Spliced c c' → c'.properties = c.properties := by
  intro c
  refine ⟨c.properties.keys_nodup, ?_, ?_, ?_⟩
  · rw [properties_eq_merge_leaves c, Mapping.keys_merge, List.flatMap_map]
  · intro property
    rw [properties_eq_merge_leaves c, Mapping.get?_merge, ← List.map_reverse,
      List.findSome?_map]
    rfl
  · intro c' spliced
    rw [properties_eq_merge_leaves c, properties_eq_merge_leaves c', spliced.leaves_eq]

end TypeGraph.DataType
