import Mathlib.Data.List.Basic
import Mathlib.Data.List.Induction
import TypeGraph.Mapping

/-!
Laws of writing and merging mappings. Names stand in the order of their first occurrence and
carry the value of their last one, so a merge is one pass over all entries, however the
mappings are grouped.
-/

namespace TypeGraph.Mapping

universe u

variable {α : Type u}

theorem eraseDups_concat (l : List Text) (name : Text) :
    (l ++ [name]).eraseDups = if name ∈ l then l.eraseDups else l.eraseDups ++ [name] := by
  rw [List.eraseDups_append]
  by_cases h : name ∈ l
  · simp [h, List.removeAll]
  · simp [h, List.removeAll, List.eraseDups_cons]

theorem eraseDups_append_eraseDups (k l : List Text) :
    (k ++ l.eraseDups).eraseDups = (k ++ l).eraseDups := by
  induction l using List.reverseRecOn with
  | nil => rfl
  | append_singleton l name ih =>
      rw [← List.append_assoc, eraseDups_concat (k ++ l), eraseDups_concat l, ← ih]
      by_cases h : name ∈ l
      · simp [h]
      · rw [if_neg h, ← List.append_assoc, eraseDups_concat]
        simp [h]

theorem mem_entries_iff {m : Mapping α} {name : Text} {value : α} :
    (name, value) ∈ m.entries ↔ m.get? name = some value := by
  obtain ⟨l, nodup⟩ := m
  change (name, value) ∈ l ↔ l.lookup name = some value
  induction l with
  | nil => simp
  | cons e l ih =>
      obtain ⟨k, v⟩ := e
      rw [List.map_cons, List.nodup_cons] at nodup
      by_cases h : name = k
      · subst h
        have absent : (name, value) ∉ l := fun hl => nodup.1 (List.mem_map.mpr ⟨_, hl, rfl⟩)
        simp [absent, eq_comm]
      · simp [List.lookup_cons, beq_eq_false_iff_ne.mpr h, h, ih nodup.2]

theorem get?_eq_none_iff {m : Mapping α} {name : Text} :
    m.get? name = none ↔ name ∉ m.keys := by
  rw [← isSome_get?_iff, Option.not_isSome_iff_eq_none]

theorem entries_eq (m : Mapping α) :
    m.entries = m.keys.filterMap fun name => (m.get? name).map (Prod.mk name) := by
  rw [keys, List.filterMap_map]
  have kept : ∀ e ∈ m.entries, (m.get? e.1).map (Prod.mk e.1) = some e := by
    rintro ⟨name, value⟩ h
    simp [mem_entries_iff.mp h]
  exact (List.filterMap_some.symm.trans (List.filterMap_congr kept).symm)

/-- A mapping is its names in order together with what each of them is mapped to. -/
theorem ext_get? {m n : Mapping α} (keys : m.keys = n.keys)
    (values : ∀ name, m.get? name = n.get? name) : m = n := by
  apply ext
  rw [entries_eq m, entries_eq n, keys]
  simp only [values]

theorem ofList_append (k l : List (Text × α)) : ofList (k ++ l) = (ofList k).setAll l :=
  List.foldl_append

theorem ofList_concat (l : List (Text × α)) (e : Text × α) :
    ofList (l ++ [e]) = (ofList l).set e.1 e.2 :=
  ofList_append l [e]

theorem keys_ofList (l : List (Text × α)) : (ofList l).keys = (l.map Prod.fst).eraseDups := by
  induction l using List.reverseRecOn with
  | nil => rfl
  | append_singleton l e ih =>
      rw [ofList_concat, keys_set, List.map_append, List.map_singleton, eraseDups_concat, ih]
      simp only [List.mem_eraseDups]

theorem nodup_eraseDups (l : List Text) : l.eraseDups.Nodup := by
  have h := keys_nodup (ofList (l.map fun name => (name, ())))
  simpa [keys_ofList, Function.comp_def] using h

/-- The last entry of a name counts. -/
theorem get?_ofList (l : List (Text × α)) (name : Text) :
    (ofList l).get? name = l.reverse.lookup name := by
  induction l using List.reverseRecOn with
  | nil => rfl
  | append_singleton l e ih =>
      rw [ofList_concat, get?_set, List.reverse_append, List.reverse_singleton,
        List.singleton_append, ih]
      obtain ⟨k, v⟩ := e
      by_cases h : name = k
      · simp [h]
      · simp [h, List.lookup_cons, beq_eq_false_iff_ne.mpr h]

theorem entries_ofList {l : List (Text × α)} (h : (l.map Prod.fst).Nodup) :
    (ofList l).entries = l := by
  induction l using List.reverseRecOn with
  | nil => rfl
  | append_singleton l e ih =>
      rw [List.map_append, List.nodup_append] at h
      have fresh : e.1 ∉ (ofList l).keys := by
        rw [keys_ofList, List.mem_eraseDups]
        intro he
        exact h.2.2 _ he _ (by simp) rfl
      rw [ofList_concat, entries_set_of_notMem e.2 fresh, ih h.1]

theorem mem_values_iff {m : Mapping α} {value : α} :
    value ∈ m.values ↔ ∃ name, m.get? name = some value := by
  simp [values, ← mem_entries_iff]

theorem mem_values_ofList {l : List (Text × α)} {value : α} (h : value ∈ (ofList l).values) :
    value ∈ l.map Prod.snd := by
  obtain ⟨name, known⟩ := mem_values_iff.mp h
  rw [get?_ofList] at known
  obtain ⟨before, after, split, -⟩ := List.lookup_eq_some_iff.mp known
  have hmem : (name, value) ∈ l := by
    rw [← List.mem_reverse, split]
    simp
  exact List.mem_map_of_mem hmem

theorem entries_ofList_zip {β : Type u} (m : Mapping α) {values : List β}
    (len : m.keys.length = values.length) :
    (ofList (m.keys.zip values)).entries = m.keys.zip values := by
  refine entries_ofList ?_
  rw [List.map_fst_zip (Nat.le_of_eq len)]
  exact m.keys_nodup

theorem length_keys_eq_values (m : Mapping α) : m.keys.length = m.values.length := by
  rw [keys, values, List.length_map, List.length_map]

theorem entries_eq_zip (m : Mapping α) : m.entries = m.keys.zip m.values :=
  List.zip_of_prod rfl rfl

theorem ofList_entries (m : Mapping α) : ofList m.entries = m :=
  ext (entries_ofList m.nodup_names)

/-- Entries may be collected in a mapping of their own before they are written. -/
theorem ofList_append_entries (k l : List (Text × α)) :
    ofList (k ++ (ofList l).entries) = ofList (k ++ l) := by
  apply ext_get?
  · rw [keys_ofList, keys_ofList, List.map_append, List.map_append]
    change (_ ++ (ofList l).keys).eraseDups = _
    rw [keys_ofList, eraseDups_append_eraseDups]
  · intro name
    have collected : (ofList l).entries.reverse.lookup name = l.reverse.lookup name := by
      rw [← get?_ofList, ← get?_ofList, ofList_entries]
    rw [get?_ofList, get?_ofList, List.reverse_append, List.reverse_append, List.lookup_append,
      List.lookup_append, collected]

theorem merge_eq_ofList (ms : List (Mapping α)) : merge ms = ofList (ms.flatMap entries) := by
  induction ms using List.reverseRecOn with
  | nil => rfl
  | append_singleton ms m ih =>
      rw [List.flatMap_append, List.flatMap_singleton, ofList_append, ← ih]
      exact List.foldl_append

theorem merge_singleton (m : Mapping α) : merge [m] = m := by
  rw [merge_eq_ofList, List.flatMap_singleton, ofList_entries]

theorem keys_merge (ms : List (Mapping α)) : (merge ms).keys = (ms.flatMap keys).eraseDups := by
  rw [merge_eq_ofList, keys_ofList, List.map_flatMap]
  rfl

/-- The last mapping that has a name gives its value. -/
theorem get?_merge (ms : List (Mapping α)) (name : Text) :
    (merge ms).get? name = ms.reverse.findSome? fun m => m.get? name := by
  rw [merge_eq_ofList]
  induction ms using List.reverseRecOn with
  | nil => rfl
  | append_singleton ms m ih =>
      rw [List.flatMap_append, List.flatMap_singleton, get?_ofList, List.reverse_append,
        List.lookup_append, ← get?_ofList, ← get?_ofList, ofList_entries, ih, List.reverse_append,
        List.reverse_singleton, List.singleton_append, List.findSome?_cons]
      cases m.get? name <;> rfl

theorem mem_values_merge {ms : List (Mapping α)} {value : α} (h : value ∈ (merge ms).values) :
    ∃ m ∈ ms, value ∈ m.values := by
  rw [merge_eq_ofList] at h
  simpa [List.map_flatMap, values] using mem_values_ofList h

/-- Merging groups first and then what they give is merging everything at once. -/
theorem merge_map_merge (groups : List (List (Mapping α))) :
    merge (groups.map merge) = merge groups.flatten := by
  induction groups using List.reverseRecOn with
  | nil => rfl
  | append_singleton groups ms ih =>
      rw [merge_eq_ofList, merge_eq_ofList] at ih
      rw [merge_eq_ofList, merge_eq_ofList, List.map_append, List.map_singleton,
        List.flatMap_append, List.flatMap_singleton, merge_eq_ofList ms, ofList_append_entries,
        ofList_append, ih, ← ofList_append, List.flatten_append, List.flatten_singleton,
        List.flatMap_append]

section Map

universe v

variable {β : Type v} (f : α → β)

theorem map_setEntry (name : Text) (value : α) (l : List (Text × α)) :
    (setEntry name value l).map (fun e => (e.1, f e.2)) =
      setEntry name (f value) (l.map fun e => (e.1, f e.2)) := by
  induction l with
  | nil => rfl
  | cons e rest ih => by_cases h : e.1 = name <;> simp [setEntry, h, ih]

theorem map_set (m : Mapping α) (name : Text) (value : α) :
    (m.set name value).map f = (m.map f).set name (f value) :=
  ext (map_setEntry f name value m.entries)

theorem map_ofList (l : List (Text × α)) :
    (ofList l).map f = ofList (l.map fun e => (e.1, f e.2)) := by
  induction l using List.reverseRecOn with
  | nil => rfl
  | append_singleton l e ih =>
      rw [ofList_concat, map_set, ih, List.map_append, List.map_singleton, ofList_concat]

theorem map_merge (ms : List (Mapping α)) : (merge ms).map f = merge (ms.map (map f)) := by
  rw [merge_eq_ofList, merge_eq_ofList, map_ofList, List.map_flatMap, List.flatMap_map]
  rfl

theorem values_map (m : Mapping α) : (m.map f).values = m.values.map f := by
  simp [values, map, Function.comp_def]

end Map

/-- The last of the mappings that has the name gives it the value. -/
def LastWritten (ms : List (Mapping α)) (name : Text) (value : α) : Prop :=
  ∃ before m after, ms = before ++ m :: after ∧ m.get? name = some value ∧
    ∀ later ∈ after, name ∉ later.keys

theorem get?_merge_eq_some_iff {ms : List (Mapping α)} {name : Text} {value : α} :
    (merge ms).get? name = some value ↔ LastWritten ms name value := by
  rw [get?_merge, List.findSome?_eq_some_iff]
  constructor
  · rintro ⟨after, m, before, split, known, absent⟩
    refine ⟨before.reverse, m, after.reverse, ?_, known, fun later hlater => ?_⟩
    · simpa using congrArg List.reverse split
    · exact get?_eq_none_iff.mp (absent later (List.mem_reverse.mp hlater))
  · rintro ⟨before, m, after, rfl, known, absent⟩
    refine ⟨after.reverse, m, before.reverse, by simp, known, fun later hlater => ?_⟩
    exact get?_eq_none_iff.mpr (absent later (List.mem_reverse.mp hlater))

/-- A merge has the names of all its mappings, each once and where it is first seen, with the value
of the last mapping that has it. It is the only mapping like this. -/
theorem merge_first_place_last_value (ms : List (Mapping α)) :
    (merge ms).keys = (ms.flatMap keys).eraseDups ∧
    (merge ms).keys.Nodup ∧
    (∀ name value, (merge ms).get? name = some value ↔ LastWritten ms name value) ∧
    ∀ m : Mapping α, m.keys = (ms.flatMap keys).eraseDups →
      (∀ name value, m.get? name = some value ↔ LastWritten ms name value) → m = merge ms := by
  refine ⟨keys_merge ms, keys_nodup _, fun _ _ => get?_merge_eq_some_iff, ?_⟩
  intro m order values
  refine ext_get? (order.trans (keys_merge ms).symm) fun name => Option.ext fun value => ?_
  rw [values, get?_merge_eq_some_iff]

/-- A name that comes again keeps its place and takes the later value. -/
example : (merge [ofList [("x", 1), ("y", 2)], ofList [("y", 3), ("z", 4)]]).entries =
    ([("x", 1), ("y", 3), ("z", 4)] : List (Text × Nat)) := rfl

end TypeGraph.Mapping
