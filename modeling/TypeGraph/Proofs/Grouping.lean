import Mathlib.Logic.Relation
import TypeGraph.Proofs.Merging

/-!
Merging in parts. A list of mappings may be cut into groups that are merged first, so every merge
comes down to merges of two mappings, and a stretch of a list may be replaced by any other that
merges to the same. Prefix stability and the neutrality of empty and of doubled mappings follow
from this and from what two mappings give.
-/

namespace TypeGraph.Mapping

universe u

variable {α : Type u}

theorem eraseDups_append_filter (k l : List Text) :
    (k ++ l).eraseDups = k.eraseDups ++ l.eraseDups.filter fun name => name ∉ k := by
  -- on the last name, as only its fate depends on all the others
  induction l using List.reverseRecOn with
  | nil => simp
  | append_singleton l name ih =>
      rw [← List.append_assoc, eraseDups_concat (k ++ l), eraseDups_concat l, ih]
      by_cases hl : name ∈ l
      · simp [hl]
      · by_cases hk : name ∈ k <;> simp [hl, hk, List.filter_append]

theorem merge_append (ms ns : List (Mapping α)) :
    merge (ms ++ ns) = merge [merge ms, merge ns] := by
  simpa using (merge_map_merge [ms, ns]).symm

theorem keys_merge_pair (m n : Mapping α) :
    (merge [m, n]).keys = m.keys ++ n.keys.filter fun name => name ∉ m.keys := by
  have distinct (k : Mapping α) : k.keys.eraseDups = k.keys := by
    simpa [merge_singleton] using (keys_merge [k]).symm
  rw [keys_merge, List.flatMap_cons, List.flatMap_singleton, eraseDups_append_filter, distinct m,
    distinct n]

theorem get?_merge_pair (m n : Mapping α) (name : Text) :
    (merge [m, n]).get? name = (n.get? name).or (m.get? name) := by
  rw [get?_merge]
  cases h : n.get? name <;> simp [h]

theorem merge_pair_self (m : Mapping α) : merge [m, m] = m := by
  apply ext_get?
  · have repeated : (m.keys.filter fun name => name ∉ m.keys) = [] := by simp
    rw [keys_merge_pair, repeated, List.append_nil]
  · intro name
    rw [get?_merge_pair, Option.or_self]

theorem keys_merge_prefix (ms ns : List (Mapping α)) :
    (merge ms).keys <+: (merge (ms ++ ns)).keys := by
  rw [merge_append, keys_merge_pair]
  exact List.prefix_append _ _

/-- Of a stretch of a list, only what it merges to counts. -/
theorem merge_congr {part part' : List (Mapping α)} (same : merge part = merge part')
    (before after : List (Mapping α)) :
    merge (before ++ (part ++ after)) = merge (before ++ (part' ++ after)) := by
  calc merge (before ++ (part ++ after))
      = merge [merge before, merge [merge part, merge after]] := by
        rw [merge_append before, merge_append part]
    _ = merge [merge before, merge [merge part', merge after]] := by rw [same]
    _ = merge (before ++ (part' ++ after)) := by
        rw [merge_append before, merge_append part']

/-- One list of mappings is another in which, at some place, an empty mapping has been put in or a
mapping has been doubled. -/
inductive Padded : List (Mapping α) → List (Mapping α) → Prop
  | inserted (before after : List (Mapping α)) :
      Padded (before ++ after) (before ++ empty :: after)
  | doubled (before : List (Mapping α)) (m : Mapping α) (after : List (Mapping α)) :
      Padded (before ++ m :: after) (before ++ m :: m :: after)

theorem Padded.merge_eq {ms ns : List (Mapping α)} (h : Padded ms ns) : merge ns = merge ms := by
  cases h with
  | inserted before after =>
      have same : merge [empty] = merge ([] : List (Mapping α)) := merge_singleton empty
      exact merge_congr same before after
  | doubled before m after =>
      have same : merge [m, m] = merge [m] := by rw [merge_pair_self, merge_singleton]
      exact merge_congr same before after

theorem merge_eq_of_padded {ms ns : List (Mapping α)} (h : Relation.ReflTransGen Padded ms ns) :
    merge ns = merge ms := by
  induction h with
  | refl => rfl
  | tail _ padded ih => exact padded.merge_eq.trans ih

/-- Groups may be merged first; more mappings at the end leave the names in their places; empty
mappings and doubled ones, however many and wherever, make no difference. Groups bring every merge
down to merges of two: there the new names of the second stand behind all of the first, and a name
that both have takes the value of the second. -/
theorem merge_grouping_laws :
    (∀ groups : List (List (Mapping α)), merge groups.flatten = merge (groups.map merge)) ∧
    (∀ ms ns : List (Mapping α), (merge ms).keys <+: (merge (ms ++ ns)).keys) ∧
    (∀ ms ns : List (Mapping α), Relation.ReflTransGen Padded ms ns → merge ns = merge ms) ∧
    ∀ m n : Mapping α,
      ((merge [m, n]).keys = m.keys ++ n.keys.filter fun name => name ∉ m.keys) ∧
      ∀ name, (merge [m, n]).get? name = (n.get? name).or (m.get? name) := by
  refine ⟨fun groups => (merge_map_merge groups).symm, keys_merge_prefix, ?_, ?_⟩
  · intro ms ns padded
    exact merge_eq_of_padded padded
  · intro m n
    exact ⟨keys_merge_pair m n, get?_merge_pair m n⟩

theorem overlapping_mappings_padded :
    let first : Mapping Nat := ofList [("x", 1), ("y", 2)]
    let second : Mapping Nat := ofList [("y", 3), ("z", 4)]
    Relation.ReflTransGen Padded [first, second] [first, empty, second, second] ∧
      merge [first, empty, second, second] = merge [first, second] ∧
      (merge [first, second]).entries =
        ([("x", 1), ("y", 3), ("z", 4)] : List (Text × Nat)) := by
  intro first second
  have doubled : Padded [first, second] [first, second, second] := .doubled [first] second []
  have inserted : Padded [first, second, second] [first, empty, second, second] :=
    .inserted [first] [second, second]
  have padded := (Relation.ReflTransGen.single doubled).tail inserted
  exact ⟨padded, merge_grouping_laws.2.2.1 _ _ padded, rfl⟩

end TypeGraph.Mapping
