import TypeGraph.Text.Basic

/-!
Mappings from names to values that remember the order in which their names first
appeared. Writing to a name that is already present replaces its value and leaves it where
it is; a new name goes to the end. Merging is writing every entry of every mapping in turn.
-/

namespace TypeGraph

universe u v

/-- Entries in order of first insertion; no name occurs twice. -/
structure Mapping (α : Type u) where
  entries : List (Text × α)
  nodup_names : (entries.map Prod.fst).Nodup

namespace Mapping

variable {α : Type u} {β : Type v}

theorem ext {m n : Mapping α} (h : m.entries = n.entries) : m = n := by
  cases m; cases n; cases h; rfl

def empty : Mapping α := ⟨[], List.nodup_nil⟩

instance : EmptyCollection (Mapping α) := ⟨empty⟩

instance : Inhabited (Mapping α) := ⟨empty⟩

def keys (m : Mapping α) : List Text := m.entries.map Prod.fst

def values (m : Mapping α) : List α := m.entries.map Prod.snd

def size (m : Mapping α) : Nat := m.entries.length

def get? (m : Mapping α) (name : Text) : Option α := m.entries.lookup name

def contains (m : Mapping α) (name : Text) : Bool := m.keys.contains name

instance : Membership Text (Mapping α) := ⟨fun m name => name ∈ m.keys⟩

/-- Write one entry into a list of entries, in place if the name is present. -/
def setEntry (name : Text) (value : α) : List (Text × α) → List (Text × α)
  | [] => [(name, value)]
  | (k, v) :: rest =>
      if k = name then (name, value) :: rest else (k, v) :: setEntry name value rest

theorem names_setEntry (name : Text) (value : α) (l : List (Text × α)) :
    (setEntry name value l).map Prod.fst =
      if name ∈ l.map Prod.fst then l.map Prod.fst else l.map Prod.fst ++ [name] := by
  induction l with
  | nil => simp [setEntry]
  | cons e rest ih =>
    obtain ⟨k, v⟩ := e
    by_cases h : k = name
    · simp [setEntry, h]
    · have h' : ¬ name = k := fun e => h e.symm
      simp only [setEntry, h, if_false, List.map_cons, ih, List.mem_cons, h', false_or]
      split <;> simp

theorem nodup_setEntry (name : Text) (value : α) {l : List (Text × α)}
    (h : (l.map Prod.fst).Nodup) : ((setEntry name value l).map Prod.fst).Nodup := by
  rw [names_setEntry]
  split
  · exact h
  · rename_i hn
    exact List.nodup_append.2 ⟨h, by simp, by rintro a ha b hb rfl; simp_all⟩

/-- Write a value: in place for a known name, at the end for a new one. -/
def set (m : Mapping α) (name : Text) (value : α) : Mapping α :=
  ⟨setEntry name value m.entries, nodup_setEntry name value m.nodup_names⟩

def erase (m : Mapping α) (name : Text) : Mapping α :=
  ⟨m.entries.filter (fun e => e.1 != name),
    m.nodup_names.sublist (List.filter_sublist.map Prod.fst)⟩

/-- Write entries one after the other. -/
def setAll (m : Mapping α) (l : List (Text × α)) : Mapping α :=
  l.foldl (fun acc e => acc.set e.1 e.2) m

/-- The mapping that a list of entries writes: first-seen order, last-written values. -/
def ofList (l : List (Text × α)) : Mapping α := empty.setAll l

/-- Merge mappings in precedence order: a later value wins, at the name's first position. -/
def merge (ms : List (Mapping α)) : Mapping α :=
  ms.foldl (fun acc m => acc.setAll m.entries) empty

def map (f : α → β) (m : Mapping α) : Mapping β :=
  ⟨m.entries.map (fun e => (e.1, f e.2)), by simpa [Function.comp_def] using m.nodup_names⟩

@[simp] theorem keys_empty : (empty : Mapping α).keys = [] := rfl

theorem keys_nodup (m : Mapping α) : m.keys.Nodup := m.nodup_names

theorem mem_keys_iff_contains {m : Mapping α} {name : Text} :
    name ∈ m.keys ↔ m.contains name = true := by
  simp [contains]

theorem keys_set (m : Mapping α) (name : Text) (value : α) :
    (m.set name value).keys = if name ∈ m.keys then m.keys else m.keys ++ [name] :=
  names_setEntry name value m.entries

theorem entries_set_of_notMem {m : Mapping α} {name : Text} (value : α)
    (h : name ∉ m.keys) : (m.set name value).entries = m.entries ++ [(name, value)] := by
  suffices H : ∀ l : List (Text × α), name ∉ l.map Prod.fst →
      setEntry name value l = l ++ [(name, value)] from H _ h
  intro l hl
  induction l with
  | nil => rfl
  | cons e rest ih =>
    simp only [List.map_cons, List.mem_cons, not_or] at hl
    simp [setEntry, Ne.symm hl.1, ih hl.2]

theorem lookup_setEntry (name : Text) (value : α) (other : Text) (l : List (Text × α)) :
    (setEntry name value l).lookup other = if other = name then some value else l.lookup other := by
  induction l with
  | nil => by_cases h : other = name <;> simp [setEntry, List.lookup_cons, h, beq_eq_false_iff_ne.2]
  | cons e rest ih =>
    obtain ⟨k, v⟩ := e
    by_cases hk : k = name <;> by_cases h : other = name <;> by_cases ho : other = k <;>
      simp_all [setEntry, List.lookup_cons, beq_eq_false_iff_ne.2]

theorem get?_set (m : Mapping α) (name : Text) (value : α) (other : Text) :
    (m.set name value).get? other = if other = name then some value else m.get? other :=
  lookup_setEntry name value other m.entries

theorem isSome_lookup_iff {name : Text} (l : List (Text × α)) :
    (l.lookup name).isSome = true ↔ name ∈ l.map Prod.fst := by
  induction l with
  | nil => simp
  | cons e rest ih =>
    obtain ⟨k, v⟩ := e
    by_cases h : name = k
    · simp [h]
    · simp [List.lookup_cons, beq_eq_false_iff_ne.2 h, h, ih]

theorem isSome_get?_iff {m : Mapping α} {name : Text} :
    (m.get? name).isSome = true ↔ name ∈ m.keys :=
  isSome_lookup_iff m.entries

@[simp] theorem keys_map (f : α → β) (m : Mapping α) : (m.map f).keys = m.keys := by
  simp [keys, map, Function.comp_def]

end Mapping
end TypeGraph
