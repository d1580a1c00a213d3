import Mathlib.Data.List.Sort
import TypeGraph.Proofs.Flattening

/-!
Imports of nested compositions. A composition collects the imports of its constituents level by
level; here they are shown to be the qualified names of all object types that are reached from it
by way of constituents. Unlike properties, imports come through compositions of every kind.
-/

namespace TypeGraph

/-- A set of names is its members. -/
theorem NameSet.ext_mem {s t : NameSet} (same : ∀ name, name ∈ s ↔ name ∈ t) : s = t := by
  have names : s.names = t.names :=
    s.ascending.eq_of_mem_iff t.ascending fun {name} => same name
  cases s
  cases t
  cases names
  rfl

namespace DataType

/-- A type is one of the constituents of a composition, whatever the kind of the latter. -/
def ComposedOf (t part : DataType) : Prop := part ∈ t.constituents

/-- A type is the given one, or is reached from it by way of constituents. -/
def Reaches : DataType → DataType → Prop := Relation.ReflTransGen ComposedOf

theorem ComposedOf.isObject {t part : DataType} (h : ComposedOf t part) : t.isObject = true := by
  cases t with
  | primitive _ _ _ | unresolved _ _ _ | object _ _ _ _ _ => exact absurd h List.not_mem_nil
  | composed _ _ _ _ _ _ => rfl

/-- Only object types have object types below them. -/
theorem Reaches.isObject {t u : DataType} (h : t.Reaches u) (object : u.isObject = true) :
    t.isObject = true := by
  rcases Relation.ReflTransGen.cases_head h with rfl | ⟨part, composed, -⟩
  · exact object
  · exact composed.isObject

theorem eq_of_reaches_object {id : Nat} {a : Attributes} {name ns : Text}
    {fields : List (Text × DataType)} {u : DataType}
    (h : Reaches (.object id a name ns fields) u) : u = .object id a name ns fields := by
  rcases Relation.ReflTransGen.cases_head h with rfl | ⟨part, composed, -⟩
  · rfl
  · exact absurd composed List.not_mem_nil

/-- The imports of an object type are the qualified names of the object types it reaches. -/
theorem mem_imports_iff {t : DataType} (object : t.isObject = true) {x : Text} :
    x ∈ t.imports ↔ ∃ u, t.Reaches u ∧ u.isObject = true ∧ u.qualifiedName = x := by
  induction t using induction_on_parts with
  | primitive _ _ _ | unresolved _ _ _ => simp [isObject] at object
  | object id a name ns fields _ =>
      rw [imports, NameSet.mem_singleton]
      constructor
      · rintro rfl
        exact ⟨_, .refl, rfl, rfl⟩
      · rintro ⟨u, reaches, -, rfl⟩
        rw [eq_of_reaches_object reaches]
        rfl
  | composed id a name ns kind constituents ih =>
      rw [imports, NameSet.mem_insert, mem_importsOfEach]
      constructor
      · rintro (rfl | ⟨part, hpart, objectPart, hx⟩)
        · exact ⟨_, .refl, rfl, rfl⟩
        · obtain ⟨u, reaches, objectBelow, same⟩ := (ih part hpart objectPart).mp hx
          exact ⟨u, .head hpart reaches, objectBelow, same⟩
      · rintro ⟨u, reaches, objectBelow, rfl⟩
        rcases Relation.ReflTransGen.cases_head reaches with rfl | ⟨part, hpart, reaches⟩
        · exact .inl rfl
        · have objectPart := Reaches.isObject reaches objectBelow
          exact .inr ⟨part, hpart, objectPart,
            (ih part hpart objectPart).mpr ⟨u, reaches, objectBelow, rfl⟩⟩

/-- What a composition imports on account of its constituents are the qualified names of the object
types below it. -/
theorem mem_referencedImports_iff {t : DataType} {x : Text} :
    x ∈ t.referencedImports ↔
      ∃ u, Relation.TransGen ComposedOf t u ∧ u.isObject = true ∧ u.qualifiedName = x := by
  rw [referencedImports, mem_importsOfEach]
  constructor
  · rintro ⟨part, hpart, objectPart, hx⟩
    obtain ⟨u, reaches, objectBelow, same⟩ := (mem_imports_iff objectPart).mp hx
    exact ⟨u, Relation.TransGen.head'_iff.mpr ⟨part, hpart, reaches⟩, objectBelow, same⟩
  · rintro ⟨u, below, objectBelow, rfl⟩
    obtain ⟨part, hpart, reaches⟩ := Relation.TransGen.head'_iff.mp below
    have objectPart := Reaches.isObject reaches objectBelow
    exact ⟨part, hpart, objectPart, (mem_imports_iff objectPart).mpr ⟨u, reaches, objectBelow, rfl⟩⟩

/-- Every object type in the first list is reached from the second one. -/
def CoveredBy (ts us : List DataType) : Prop :=
  ∀ t ∈ ts, t.isObject = true → ∃ u ∈ us, u.Reaches t

/-- One type is another in which, at some depth, a composition has got other constituents from which
the same object types are reached: they may stand in another order, be repeated, be left out where
they are reached by another path as well, and be joined by types that are no object types. -/
inductive Rearranged : DataType → DataType → Prop
  | here {id id' : Nat} {a a' : Attributes} {name ns : Text} {kind kind' : CompositionKind}
      {ts us : List DataType} (forth : CoveredBy ts us) (back : CoveredBy us ts) :
      Rearranged (.composed id a name ns kind ts) (.composed id' a' name ns kind' us)
  | inside {id : Nat} {a : Attributes} {name ns : Text} {kind : CompositionKind}
      {before after : List DataType} {t t' : DataType} (part : Rearranged t t') :
      Rearranged (.composed id a name ns kind (before ++ t :: after))
        (.composed id a name ns kind (before ++ t' :: after))

theorem CoveredBy.importsOfEach_subset {ts us : List DataType} (covered : CoveredBy ts us)
    {x : Text} (hx : x ∈ importsOfEach ts) : x ∈ importsOfEach us := by
  obtain ⟨t, ht, object, hx⟩ := mem_importsOfEach.mp hx
  obtain ⟨below, reaches, objectBelow, rfl⟩ := (mem_imports_iff object).mp hx
  obtain ⟨u, hu, reachesT⟩ := covered t ht object
  have reachesBelow : u.Reaches below := Relation.ReflTransGen.trans reachesT reaches
  have objectU := reachesBelow.isObject objectBelow
  exact mem_importsOfEach.mpr ⟨u, hu, objectU,
    (mem_imports_iff objectU).mpr ⟨below, reachesBelow, objectBelow, rfl⟩⟩

theorem Rearranged.isObject {t t' : DataType} (h : Rearranged t t') :
    t.isObject = true ∧ t'.isObject = true := by
  cases h <;> exact ⟨rfl, rfl⟩

theorem Rearranged.imports_eq {t t' : DataType} (h : Rearranged t t') :
    t'.imports = t.imports ∧ t'.referencedImports = t.referencedImports := by
  induction h with
  | here forth back =>
      have same : importsOfEach _ = importsOfEach _ := NameSet.ext_mem fun x =>
        ⟨back.importsOfEach_subset, forth.importsOfEach_subset⟩
      refine ⟨?_, same⟩
      rw [imports, imports, same]
  | @inside _ _ _ _ _ before after t t' part ih =>
      have same : importsOfEach (before ++ t' :: after) = importsOfEach (before ++ t :: after) := by
        apply NameSet.ext_mem
        intro x
        simp only [mem_importsOfEach, List.mem_append, List.mem_cons, or_and_right, exists_or,
          exists_eq_left, part.isObject, ih.1]
      refine ⟨?_, same⟩
      rw [imports, imports, same]

/-- A composition imports the object types that it reaches by way of constituents, itself included,
and on account of its constituents those below it. Nothing else matters: neither the order of
constituents at any level, nor how often or by how many paths a type is reached, nor types that are
no object types. -/
theorem composition_imports_reached (id : Nat) (a : Attributes) (name ns : Text)
    (kind : CompositionKind) (constituents : List DataType) :
    let c := composed id a name ns kind constituents
    (∀ x, x ∈ c.imports ↔ ∃ t, c.Reaches t ∧ t.isObject = true ∧ t.qualifiedName = x) ∧
      (∀ x, x ∈ c.referencedImports ↔
        ∃ t, Relation.TransGen ComposedOf c t ∧ t.isObject = true ∧ t.qualifiedName = x) ∧
      ∀ c', Relation.ReflTransGen Rearranged c c' →
        c'.imports = c.imports ∧ c'.referencedImports = c.referencedImports := by
  intro c
  refine ⟨fun x => mem_imports_iff rfl, fun x => mem_referencedImports_iff, ?_⟩
  intro c' rearranged
  induction rearranged with
  | refl => exact ⟨rfl, rfl⟩
  | tail _ step ih => exact ⟨step.imports_eq.1.trans ih.1, step.imports_eq.2.trans ih.2⟩

/-- The objects of the inner composition count although it is no `allOf`, and one of them is reached
by two paths. -/
example :
    let a : DataType := .object 0 .none "A" "m" []
    let b : DataType := .object 1 .none "B" "" [("a", a)]
    let inner : DataType := .composed 2 .none "Inner" "m" .anyOf [b, a, .unresolved 3 .none "X"]
    (composed 4 .none "Outer" "" .allOf [inner, .primitive 5 .none .long, a, inner]).imports.names =
      ["B", "Outer", "m.A", "m.Inner"] := by
  cbv

end DataType
end TypeGraph
