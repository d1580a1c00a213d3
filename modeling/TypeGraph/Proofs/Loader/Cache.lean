import Mathlib.Data.List.Forall2
import Mathlib.Data.Set.Insert
import Mathlib.Logic.Relation
import TypeGraph.Proofs.Loader.Derivation
import TypeGraph.Proofs.Merging

/-!
The types that a loader keeps. Types are only ever added, at the end and under names that are
not being built, so a kept type stays where it is. Every kept type is the one that its name's
definition describes, made of types that are kept before it.
-/

namespace TypeGraph

namespace Mapping

universe u

variable {α : Type u}

/-- The place of a name among all names. -/
def position (m : Mapping α) (name : Text) : Nat := m.keys.idxOf name

/-- Whatever is in the first mapping is in the second, at the same place. -/
def Grows (m n : Mapping α) : Prop := m.entries <+: n.entries

theorem Grows.refl (m : Mapping α) : m.Grows m := List.prefix_refl _

theorem Grows.trans {m n p : Mapping α} (h : m.Grows n) (h' : n.Grows p) : m.Grows p :=
  List.IsPrefix.trans h h'

theorem mem_keys_of_get? {m : Mapping α} {name : Text} {value : α}
    (h : m.get? name = some value) : name ∈ m.keys := by
  rw [← isSome_get?_iff, h]
  rfl

theorem exists_get?_of_mem_keys {m : Mapping α} {name : Text} (h : name ∈ m.keys) :
    ∃ value, m.get? name = some value :=
  Option.isSome_iff_exists.mp (isSome_get?_iff.mpr h)

theorem mem_keys_set {m : Mapping α} {name other : Text} {value : α} :
    other ∈ (m.set name value).keys ↔ other ∈ m.keys ∨ other = name := by
  rw [keys_set]
  split
  · rename_i known
    exact ⟨.inl, fun h => h.elim id fun same => same ▸ known⟩
  · simp

theorem grows_set {m : Mapping α} {name : Text} (value : α) (h : m.get? name = none) :
    m.Grows (m.set name value) := by
  rw [Grows, entries_set_of_notMem value (get?_eq_none_iff.mp h)]
  exact List.prefix_append _ _

theorem get?_erase_of_ne (m : Mapping α) {name other : Text}
    (h : other ≠ name) : (m.erase name).get? other = m.get? other := by
  change (m.entries.filter fun e => e.1 != name).lookup other = m.entries.lookup other
  induction m.entries with
  | nil => rfl
  | cons e entries ih =>
      obtain ⟨k, value⟩ := e
      by_cases hk : k = name
      · have hother : (other == k) = false := beq_eq_false_iff_ne.mpr (hk ▸ h)
        rw [List.filter_cons_of_neg (by simp [hk]), ih, List.lookup_cons, hother]
      · rw [List.filter_cons_of_pos (by simp [hk]), List.lookup_cons, List.lookup_cons, ih]

theorem Grows.get? {m n : Mapping α} (h : m.Grows n) {name : Text} {value : α}
    (known : m.get? name = some value) : n.get? name = some value := by
  obtain ⟨more, hmore⟩ := h
  change n.entries.lookup name = _
  rw [← hmore, List.lookup_append]
  change (m.get? name).or _ = _
  rw [known]
  rfl

theorem Grows.keys {m n : Mapping α} (h : m.Grows n) : m.keys <+: n.keys :=
  List.IsPrefix.map Prod.fst h

theorem Grows.position {m n : Mapping α} (h : m.Grows n) {name : Text}
    (known : name ∈ m.keys) : n.position name = m.position name := by
  obtain ⟨more, hmore⟩ := h.keys
  rw [Mapping.position, Mapping.position, ← hmore, List.idxOf_append_of_mem known]

theorem length_keys (m : Mapping α) : m.keys.length = m.size := List.length_map _

theorem position_lt_size {m : Mapping α} {name : Text} (h : name ∈ m.keys) :
    m.position name < m.size := by
  rw [← length_keys]
  exact List.idxOf_lt_length_of_mem h

theorem position_set {m : Mapping α} {name : Text} (value : α) (h : m.get? name = none) :
    (m.set name value).position name = m.size := by
  have unkept := get?_eq_none_iff.mp h
  rw [position, keys_set, if_neg unkept, List.idxOf_append_of_notMem unkept, length_keys]
  simp

theorem position_injective {m : Mapping α} {name other : Text} (h : name ∈ m.keys)
    (same : m.position name = m.position other) : name = other :=
  (List.idxOf_inj h).mp same

end Mapping

namespace Loader

/-- The type of a name is kept, before a given place. -/
def KeptBefore (resolved : Mapping DataType) (place : Nat) (ref : Json) (t : DataType) : Prop :=
  ∃ name, ref = .str name ∧ resolved.get? name = some t ∧ resolved.position name < place

/-- A type is what the definitions say of its name, its parts being kept before it. Its place is
its identity. -/
inductive Explains (definitions : Mapping Json) (resolved : Mapping DataType) (name : Text) :
    DataType → Prop
  | declared {id : Nat} {definition : Json} {d : Definition} {targets : List DataType}
      (place : resolved.position name = id) (declared : definitions.get? name = some definition)
      (read : Definition.ofJson name definition = .ok d)
      (parts : List.Forall₂ (KeptBefore resolved id) d.references targets) :
      Explains definitions resolved name (d.assemble id name targets)
  | primitive {id : Nat} {kind : Primitive} (place : resolved.position name = id)
      (undeclared : definitions.get? name = none) (known : Primitive.ofName? name = some kind) :
      Explains definitions resolved name (.primitive id .none kind)
  | unresolved {id : Nat} (place : resolved.position name = id)
      (undeclared : definitions.get? name = none) (unknown : Primitive.ofName? name = none) :
      Explains definitions resolved name (.unresolved id .none name)

/-- Every kept type is explained by the definitions. -/
def Coherent (l : Loader) : Prop :=
  ∀ name t, l.resolved.get? name = some t → Explains l.definitions l.resolved name t

/-- Every kept type is explained by definitions among the given ones. -/
def ExplainedBy (sources : Set (Mapping Json)) (resolved : Mapping DataType) : Prop :=
  ∀ name t, resolved.get? name = some t →
    ∃ definitions ∈ sources, Explains definitions resolved name t

theorem coherent_iff {l : Loader} : l.Coherent ↔ ExplainedBy {l.definitions} l.resolved := by
  simp [Coherent, ExplainedBy]

theorem KeptBefore.mono {m n : Mapping DataType} (grows : m.Grows n) {place place' : Nat}
    (le : place ≤ place') {ref : Json} {t : DataType} (h : KeptBefore m place ref t) :
    KeptBefore n place' ref t := by
  obtain ⟨name, rfl, known, before⟩ := h
  refine ⟨name, rfl, grows.get? known, ?_⟩
  rw [grows.position (Mapping.mem_keys_of_get? known)]
  omega

theorem mem_keys_of_keptBefore {resolved : Mapping DataType} {place : Nat} {refs : List Json}
    {ts : List DataType} (kept : List.Forall₂ (KeptBefore resolved place) refs ts)
    {name : Text} (mentioned : .str name ∈ refs) :
    name ∈ resolved.keys ∧ resolved.position name < place := by
  induction kept with
  | nil => cases mentioned
  | cons head _ ih =>
      rcases List.mem_cons.mp mentioned with rfl | mentioned
      · obtain ⟨_, same, known, before⟩ := head
        obtain rfl := Json.str.inj same
        exact ⟨Mapping.mem_keys_of_get? known, before⟩
      · exact ih mentioned

theorem Explains.mono {definitions : Mapping Json} {m n : Mapping DataType} (grows : m.Grows n)
    {name : Text} {t : DataType} (known : name ∈ m.keys) (h : Explains definitions m name t) :
    Explains definitions n name t := by
  have same := grows.position known
  cases h with
  | declared place declared read parts =>
      exact .declared (same.trans place) declared read
        (parts.imp fun _ _ kept => kept.mono grows (Nat.le_refl _))
  | primitive place undeclared known => exact .primitive (same.trans place) undeclared known
  | unresolved place undeclared unknown => exact .unresolved (same.trans place) undeclared unknown

theorem Finds.grows {l l' : Loader} {name : Text} {t : DataType} (h : l.Finds name t l') :
    l.resolved.Grows l'.resolved := by
  cases h with
  | kept _ => exact .refl _
  | primitive fresh _ _ => exact Mapping.grows_set _ fresh.unkept
  | unresolved fresh _ _ => exact Mapping.grows_set _ fresh.unkept

theorem Finds.busy_unkept {l l' : Loader} {name : Text} {t : DataType} (h : l.Finds name t l')
    {busy : Text} (hbusy : busy ∈ l.resolving) (unkept : l.resolved.get? busy = none) :
    l'.resolved.get? busy = none := by
  have other (fresh : l.Fresh name) : busy ≠ name := fun same => fresh.idle (same ▸ hbusy)
  cases h with
  | kept _ => exact unkept
  | primitive fresh _ _ =>
      exact (Mapping.get?_set _ _ _ _).trans (by rw [if_neg (other fresh), unkept])
  | unresolved fresh _ _ =>
      exact (Mapping.get?_set _ _ _ _).trans (by rw [if_neg (other fresh)]; exact unkept)

/-- A name on the stack is not kept before it has been left. -/
theorem Resolves.busy_unkept {l l' : Loader} {refs : List Json} {ts : List DataType}
    (h : l.Resolves refs ts l') {busy : Text} (hbusy : busy ∈ l.resolving)
    (unkept : l.resolved.get? busy = none) : l'.resolved.get? busy = none := by
  induction h with
  | nil => exact unkept
  | found head _ ih => exact ih (head.frame.2 ▸ hbusy) (head.busy_unkept hbusy unkept)
  | @built l l₁ l₂ name d refs targets ts opens parts _ ihParts ihRest =>
      have inner := ihParts (List.mem_append_left _ hbusy) unkept
      have other : busy ≠ name := fun same => opens.fresh.idle (same ▸ hbusy)
      have frame := (Resolves.built opens parts .nil).frame
      refine ihRest (frame.2 ▸ hbusy) ?_
      rw [finish_resolved, Mapping.get?_set, if_neg other, inner]

theorem Fails.busy_unkept {l l' : Loader} {refs : List Json} {e : LoadFailure}
    (h : l.Fails refs e l') {busy : Text} (hbusy : busy ∈ l.resolving)
    (unkept : l.resolved.get? busy = none) : l'.resolved.get? busy = none := by
  induction h with
  | refused _ => exact unkept
  | inside _ _ ih => exact ih (List.mem_append_left _ hbusy) unkept
  | later head _ ih => exact ih (head.frame.2 ▸ hbusy) (head.busy_unkept hbusy unkept)

/-- Building a name never comes back to it. -/
theorem Opens.unkept_of_resolves {l l₁ : Loader} {name : Text} {d : Definition}
    {refs : List Json} {targets : List DataType} (opens : l.Opens name d)
    (parts : (l.start name d).Resolves refs targets l₁) : l₁.resolved.get? name = none :=
  parts.busy_unkept (by simp) opens.fresh.unkept

theorem Resolves.grows {l l' : Loader} {refs : List Json} {ts : List DataType}
    (h : l.Resolves refs ts l') : l.resolved.Grows l'.resolved := by
  induction h with
  | nil => exact .refl _
  | found head _ ih => exact head.grows.trans ih
  | built opens parts _ ihParts ihRest =>
      exact ihParts.trans ((Mapping.grows_set _ (opens.unkept_of_resolves parts)).trans ihRest)

theorem Fails.grows {l l' : Loader} {refs : List Json} {e : LoadFailure}
    (h : l.Fails refs e l') : l.resolved.Grows l'.resolved := by
  induction h with
  | refused _ => exact .refl _
  | inside _ _ ih => exact ih
  | later head _ ih => exact head.grows.trans ih

theorem Finds.keeps {l l' : Loader} {name : Text} {t : DataType} (h : l.Finds name t l') :
    l'.resolved.get? name = some t := by
  cases h with
  | kept known => exact known
  | primitive _ _ _ => exact (Mapping.get?_set _ _ _ _).trans (if_pos rfl)
  | unresolved _ _ _ => exact (Mapping.get?_set _ _ _ _).trans (if_pos rfl)

theorem keptBefore_of_get? {resolved : Mapping DataType} {name : Text} {t : DataType}
    (known : resolved.get? name = some t) : KeptBefore resolved resolved.size (.str name) t :=
  ⟨name, rfl, known, Mapping.position_lt_size (Mapping.mem_keys_of_get? known)⟩

theorem Resolves.keeps {l l' : Loader} {refs : List Json} {ts : List DataType}
    (h : l.Resolves refs ts l') :
    List.Forall₂ (KeptBefore l'.resolved l'.resolved.size) refs ts := by
  induction h with
  | nil => exact .nil
  | found head rest ih => exact .cons (keptBefore_of_get? (rest.grows.get? head.keeps)) ih
  | built _ _ rest _ ih =>
      refine .cons (keptBefore_of_get? (rest.grows.get? ?_)) ih
      rw [finish_resolved, Mapping.get?_set, if_pos rfl]

theorem Resolves.mem_keys {l l' : Loader} {refs : List Json} {ts : List DataType}
    (h : l.Resolves refs ts l') {name : Text} (mentioned : .str name ∈ refs) :
    name ∈ l'.resolved.keys :=
  (mem_keys_of_keptBefore h.keeps mentioned).1

theorem length_of_resolves {l l' : Loader} {ts : List DataType}
    (h : l.Resolves l.declaredRefs ts l') : l.definitions.keys.length = ts.length := by
  rw [← h.keeps.length_eq, declaredRefs, List.length_map]

/-- What is loaded has the declared names, each with what it resolves to. -/
theorem entries_of_resolves {l l' : Loader} {ts : List DataType}
    (h : l.Resolves l.declaredRefs ts l') :
    (Mapping.ofList (l.definitions.keys.zip ts)).entries = l.definitions.keys.zip ts :=
  l.definitions.entries_ofList_zip (length_of_resolves h)

theorem keys_of_resolves {l l' : Loader} {ts : List DataType}
    (h : l.Resolves l.declaredRefs ts l') :
    (Mapping.ofList (l.definitions.keys.zip ts)).keys = l.definitions.keys := by
  rw [Mapping.keys, entries_of_resolves h, List.map_fst_zip (Nat.le_of_eq (length_of_resolves h))]

theorem values_of_resolves {l l' : Loader} {ts : List DataType}
    (h : l.Resolves l.declaredRefs ts l') :
    (Mapping.ofList (l.definitions.keys.zip ts)).values = ts := by
  rw [Mapping.values, entries_of_resolves h,
    List.map_snd_zip (Nat.le_of_eq (length_of_resolves h).symm)]

theorem kept_of_loaded {l l' : Loader} {ts : List DataType} (h : l.Resolves l.declaredRefs ts l')
    {name : Text} {t : DataType}
    (loaded : (Mapping.ofList (l.definitions.keys.zip ts)).get? name = some t) :
    l'.resolved.get? name = some t := by
  have hmem := Mapping.mem_entries_iff.mpr loaded
  rw [entries_of_resolves h] at hmem
  obtain ⟨other, same, known, -⟩ :=
    (List.forall₂_iff_zip.mp (List.forall₂_map_left_iff.mp h.keeps)).2 hmem
  rwa [Json.str.inj same]

/-- A type is added under a new name, which it is what the definitions say of. -/
inductive Adds (definitions : Mapping Json) (resolved : Mapping DataType) :
    Mapping DataType → Prop
  | add {name : Text} {t : DataType} (unkept : resolved.get? name = none)
      (explains : Explains definitions (resolved.set name t) name t) :
      Adds definitions resolved (resolved.set name t)

section Adds

variable {l l' : Loader}

theorem Finds.adds {name : Text} {t : DataType} (h : l.Finds name t l') :
    Relation.ReflTransGen (Adds l.definitions) l.resolved l'.resolved := by
  cases h with
  | kept _ => exact .refl
  | primitive fresh undeclared known =>
      exact .single (.add fresh.unkept
        (.primitive (Mapping.position_set _ fresh.unkept) undeclared known))
  | unresolved fresh undeclared unknown =>
      exact .single (.add fresh.unkept
        (.unresolved (Mapping.position_set _ fresh.unkept) undeclared unknown))

theorem Opens.explains {l₁ : Loader} {name : Text} {d : Definition}
    {targets : List DataType} (opens : l.Opens name d)
    (parts : (l.start name d).Resolves d.references targets l₁) :
    Explains l₁.definitions
      (l₁.resolved.set name (d.assemble l₁.nextId name targets)) name
      (d.assemble l₁.nextId name targets) := by
  obtain ⟨definition, declared, read⟩ := opens.declared
  have unkept := opens.unkept_of_resolves parts
  refine .declared (Mapping.position_set _ unkept) (parts.frame.1 ▸ declared) read ?_
  exact parts.keeps.imp fun _ _ kept => kept.mono (Mapping.grows_set _ unkept) (Nat.le_refl _)

/-- All that resolving does to the kept types is to add explained ones. -/
theorem Resolves.adds {refs : List Json} {ts : List DataType} (h : l.Resolves refs ts l') :
    Relation.ReflTransGen (Adds l.definitions) l.resolved l'.resolved := by
  induction h with
  | nil => exact .refl
  | found head _ ih => exact head.adds.trans (head.frame.1 ▸ ih)
  | @built l l₁ l₂ name d refs targets ts opens parts _ ihParts ihRest =>
      have same : l₁.definitions = l.definitions := parts.frame.1
      have own : Adds l.definitions l₁.resolved
          (l₁.finish name (d.assemble l₁.nextId name targets)).resolved :=
        same ▸ .add (opens.unkept_of_resolves parts) (opens.explains parts)
      rw [finish_definitions, same] at ihRest
      exact (ihParts.tail own).trans ihRest

theorem Fails.adds {refs : List Json} {e : LoadFailure} (h : l.Fails refs e l') :
    Relation.ReflTransGen (Adds l.definitions) l.resolved l'.resolved := by
  induction h with
  | refused _ => exact .refl
  | inside _ _ ih => exact ih
  | later head _ ih => exact head.adds.trans (head.frame.1 ▸ ih)

end Adds

section ExplainedBy

variable {sources : Set (Mapping Json)} {resolved resolved' : Mapping DataType}
  {definitions : Mapping Json}

theorem ExplainedBy.set (explained : ExplainedBy sources resolved)
    (source : definitions ∈ sources) {name : Text} {t : DataType}
    (unkept : resolved.get? name = none)
    (explains : Explains definitions (resolved.set name t) name t) :
    ExplainedBy sources (resolved.set name t) := by
  intro other u known
  rw [Mapping.get?_set] at known
  split at known
  · rename_i same
    cases known
    exact ⟨definitions, source, same ▸ explains⟩
  · obtain ⟨earlier, hearlier, explains⟩ := explained other u known
    exact ⟨earlier, hearlier, explains.mono (Mapping.grows_set t unkept)
      (Mapping.mem_keys_of_get? known)⟩

theorem ExplainedBy.adds (explained : ExplainedBy sources resolved)
    (source : definitions ∈ sources)
    (adds : Relation.ReflTransGen (Adds definitions) resolved resolved') :
    ExplainedBy sources resolved' := by
  induction adds with
  | refl => exact explained
  | tail _ step ih =>
      cases step with
      | add unkept explains => exact ih.set source unkept explains

/-- What has been added is explained by the definitions that were there. -/
theorem explains_of_adds (adds : Relation.ReflTransGen (Adds definitions) resolved resolved')
    {name : Text} {t : DataType} (unkept : resolved.get? name = none)
    (known : resolved'.get? name = some t) : Explains definitions resolved' name t := by
  induction adds generalizing t with
  | refl =>
      rw [unkept] at known
      cases known
  | tail _ step ih =>
      cases step with
      | @add other u unkept explains =>
          rw [Mapping.get?_set] at known
          split at known
          · rename_i same
            cases known
            exact same ▸ explains
          · exact (ih known).mono (Mapping.grows_set u unkept) (Mapping.mem_keys_of_get? known)

end ExplainedBy

/-- What calls may do to a loader: keep more types, which the declarations explain, and report
events. -/
structure Advances (l l' : Loader) : Prop where
  definitions : l'.definitions = l.definitions
  resolving : l'.resolving = l.resolving
  grows : l.resolved.Grows l'.resolved
  explained : ∀ {sources}, l.definitions ∈ sources → ExplainedBy sources l.resolved →
    ExplainedBy sources l'.resolved

section Advances

variable {l l' : Loader}

theorem Resolves.advances {refs : List Json} {ts : List DataType} (h : l.Resolves refs ts l') :
    l.Advances l' :=
  ⟨h.frame.1, h.frame.2, h.grows, fun source explained => explained.adds source h.adds⟩

theorem Fails.advances {refs : List Json} {e : LoadFailure} (h : l.Fails refs e l') :
    l.Advances l' :=
  ⟨h.frame.1, h.frame.2, h.grows, fun source explained => explained.adds source h.adds⟩

theorem resolve_advances (idle : l.resolving = []) (ref : Json) :
    l.Advances (l.resolve ref).2 := by
  rcases h : l.resolve ref with ⟨e | t, l'⟩
  · exact ((resolve_eq_error_iff idle).mp h).advances
  · exact ((resolve_eq_ok_iff idle).mp h).advances

theorem load_advances (idle : l.resolving = []) : l.Advances l.load.2 := by
  rcases h : l.load with ⟨e | types, l'⟩
  · exact ((load_eq_error_iff idle).mp h).advances
  · obtain ⟨ts, l₁, resolves, -, rfl⟩ := (load_eq_ok_iff idle).mp h
    have advances := resolves.advances
    exact ⟨advances.definitions, advances.resolving, advances.grows, advances.explained⟩

theorem Advances.coherent (h : l.Advances l') (coherent : l.Coherent) : l'.Coherent := by
  rw [coherent_iff] at coherent ⊢
  rw [h.definitions]
  exact h.explained rfl coherent

theorem Resolves.coherent {refs : List Json} {ts : List DataType} (h : l.Resolves refs ts l')
    (coherent : l.Coherent) : l'.Coherent :=
  h.advances.coherent coherent

end Advances

theorem coherent_ofDefinitions (definitions : Mapping Json) :
    (ofDefinitions definitions).Coherent := by
  intro name t known
  cases known

theorem ofDocument_eq_ok {document : Json} {l : Loader} (read : ofDocument document = .ok l) :
    ∃ definitions, l = ofDefinitions definitions := by
  unfold ofDocument at read
  split at read
  · split at read
    · cases read
      exact ⟨_, rfl⟩
    · cases read
  · cases read

end Loader
end TypeGraph
