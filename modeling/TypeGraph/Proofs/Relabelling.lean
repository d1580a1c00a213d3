import Mathlib.Data.Set.Function
import TypeGraph.Loader.Definition

/-!
Types that are the same but for their identities. Identities only say which parts are shared, so
two graphs are alike when one relabelling, which takes distinct identities to distinct ones, turns
one into the other.
-/

namespace TypeGraph

namespace DataType

mutual

/-- The type with other identities. -/
def relabel (f : Nat → Nat) : DataType → DataType
  | primitive id a kind => primitive (f id) a kind
  | unresolved id a name => unresolved (f id) a name
  | object id a name ns fields => object (f id) a name ns (relabelFields f fields)
  | composed id a name ns kind constituents =>
      composed (f id) a name ns kind (relabelEach f constituents)

def relabelFields (f : Nat → Nat) : List (Text × DataType) → List (Text × DataType)
  | [] => []
  | (name, t) :: fields => (name, relabel f t) :: relabelFields f fields

def relabelEach (f : Nat → Nat) : List DataType → List DataType
  | [] => []
  | t :: rest => relabel f t :: relabelEach f rest

end

mutual

/-- The identities of a type and of everything that it is made of. -/
def ids : DataType → List Nat
  | primitive id _ _ | unresolved id _ _ => [id]
  | object id _ _ _ fields => id :: idsOfFields fields
  | composed id _ _ _ _ constituents => id :: idsOfEach constituents

def idsOfFields : List (Text × DataType) → List Nat
  | [] => []
  | (_, t) :: fields => ids t ++ idsOfFields fields

def idsOfEach : List DataType → List Nat
  | [] => []
  | t :: rest => ids t ++ idsOfEach rest

end

/-- Types that one relabelling turns into the others, one by one. -/
def Alike (ts us : List DataType) : Prop :=
  ∃ f : Nat → Nat, Set.InjOn f {i | i ∈ idsOfEach ts} ∧ us = ts.map (relabel f)

theorem relabelFields_eq (f : Nat → Nat) (fields : List (Text × DataType)) :
    relabelFields f fields = fields.map fun e => (e.1, e.2.relabel f) := by
  induction fields with
  | nil => rfl
  | cons e fields ih => rw [relabelFields, ih, List.map_cons]

theorem relabelEach_eq (f : Nat → Nat) (ts : List DataType) :
    relabelEach f ts = ts.map (relabel f) := by
  induction ts with
  | nil => rfl
  | cons t ts ih => rw [relabelEach, ih, List.map_cons]

theorem idsOfFields_eq (fields : List (Text × DataType)) :
    idsOfFields fields = fields.flatMap fun e => e.2.ids := by
  induction fields with
  | nil => rfl
  | cons e fields ih => rw [idsOfFields, ih, List.flatMap_cons]

theorem idsOfEach_eq (ts : List DataType) : idsOfEach ts = ts.flatMap ids := by
  induction ts with
  | nil => rfl
  | cons t ts ih => rw [idsOfEach, ih, List.flatMap_cons]

end DataType

namespace Definition

/-- A definition makes the same type of relabelled parts, under another identity. -/
theorem relabel_assemble (f : Nat → Nat) (id : Nat) (name : Text) (d : Definition)
    (targets : List DataType) :
    (d.assemble id name targets).relabel f =
      d.assemble (f id) name (targets.map (DataType.relabel f)) := by
  obtain ⟨ns, attributes, shape⟩ := d
  cases shape with
  | object properties =>
      change DataType.relabel f (.object id attributes name ns (properties.keys.zip targets)) =
        .object (f id) attributes name ns (properties.keys.zip (targets.map (DataType.relabel f)))
      rw [DataType.relabel, DataType.relabelFields_eq, List.zip_map_right]
      rfl
  | composition kind items =>
      change DataType.relabel f (.composed id attributes name ns kind targets) = _
      rw [DataType.relabel, DataType.relabelEach_eq]
      rfl

theorem mem_ids_assemble {id : Nat} {name : Text} {d : Definition} {targets : List DataType}
    {i : Nat} (h : i ∈ (d.assemble id name targets).ids) :
    i = id ∨ ∃ t ∈ targets, i ∈ t.ids := by
  obtain ⟨ns, attributes, shape⟩ := d
  cases shape with
  | object properties =>
      change i ∈ DataType.ids (.object id attributes name ns (properties.keys.zip targets)) at h
      rw [DataType.ids, DataType.idsOfFields_eq, List.mem_cons, List.mem_flatMap] at h
      rcases h with rfl | ⟨e, he, hi⟩
      · exact .inl rfl
      · exact .inr ⟨e.2, (List.of_mem_zip he).2, hi⟩
  | composition kind items =>
      change i ∈ DataType.ids (.composed id attributes name ns kind targets) at h
      rw [DataType.ids, DataType.idsOfEach_eq, List.mem_cons, List.mem_flatMap] at h
      exact h
end Definition
end TypeGraph
