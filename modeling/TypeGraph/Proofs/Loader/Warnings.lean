import TypeGraph.Proofs.Loader.Denotation

/-!
The warnings of a loader. A warning is reported when its subject is kept and at no other time, so
the warnings so far are those that the kept types call for, in the order in which these are kept, no
matter which calls failed and how often they were tried. In the log a warning is an entry of that
level with a text of its own, which no other event has.
-/

namespace TypeGraph

/-- What a warning is about. -/
inductive Warning
  /-- A reference that fits nothing. -/
  | unresolved (ref : Text)
  /-- A composition without properties, under its qualified name. -/
  | unflattened (qualifiedName : Text) (kind : CompositionKind)
deriving DecidableEq

def Warning.isUnflattened : Warning → Bool
  | unflattened .. => true
  | unresolved _ => false

namespace Log.Event

def warning? : Event → Option Warning
  | unresolvedReference ref _ => some (.unresolved ref)
  | notFlattened qualifiedName kind => some (.unflattened qualifiedName kind)
  | _ => none

/-- The name whose type is going to be built. -/
def building? : Event → Option Text
  | buildingObject name _ | buildingComposition name _ _ => some name
  | _ => none

end Log.Event

namespace Log.Entry

/-- An entry warns of a reference that fits nothing. -/
def WarnsOfReference (e : Entry) (ref : Text) : Prop :=
  e.level = .warning ∧ e.text.asText? = some "Unresolved type reference" ∧
    (e.fields.get? "ref").bind Json.asText? = some ref

/-- An entry warns of a composition without properties. -/
def WarnsOfComposition (e : Entry) : Prop :=
  e.level = .warning ∧
    e.text.asText? = some "Composition is not flattened, properties will be empty"

/-- An entry says that a type is going to be built. -/
def SaysBuilding (e : Entry) : Prop :=
  e.level = .debug ∧
    (e.text.asText? = some "Building object type" ∨
      e.text.asText? = some "Building composed type")

/-- The name of the type that an entry is about. -/
def typeName? (e : Entry) : Option Text := (e.fields.get? "type").bind Json.asText?

instance (e : Entry) (ref : Text) : Decidable (e.WarnsOfReference ref) :=
  inferInstanceAs (Decidable (_ ∧ _ ∧ _))

instance (e : Entry) : Decidable e.WarnsOfComposition := inferInstanceAs (Decidable (_ ∧ _))

instance (e : Entry) : Decidable e.SaysBuilding := inferInstanceAs (Decidable (_ ∧ (_ ∨ _)))

end Log.Entry

namespace Log.Event

theorem warnsOfReference_entry_iff (event : Event) (ref : Text) :
    event.entry.WarnsOfReference ref ↔ event.warning? = some (.unresolved ref) := by
  cases event with
  | unresolvedReference missing origin =>
      constructor
      · rintro ⟨-, -, same⟩
        obtain rfl : missing = ref := Option.some.inj same
        rfl
      · rintro ⟨⟩
        exact ⟨rfl, rfl, rfl⟩
  | notFlattened _ _ =>
      simp [Entry.WarnsOfReference, entry, notFlattenedEntry, warning?, Json.asText?]
  | buildingObject _ _ | buildingComposition _ _ _ | graphLoaded _ _ | unresolvedFound _ =>
      simp [Entry.WarnsOfReference, entry, warning?]

theorem warnsOfComposition_entry_iff (event : Event) :
    event.entry.WarnsOfComposition ↔ event.warning?.any Warning.isUnflattened = true := by
  cases event <;>
    simp [Entry.WarnsOfComposition, entry, notFlattenedEntry, warning?, Json.asText?,
      Warning.isUnflattened]

theorem building?_of_saysBuilding {event : Event} (h : event.entry.SaysBuilding) :
    ∃ name, event.building? = some name ∧ event.entry.typeName? = some name := by
  cases event with
  | buildingObject name _ | buildingComposition name _ _ => exact ⟨name, rfl, rfl⟩
  | unresolvedReference _ _ | notFlattened _ _ | graphLoaded _ _ | unresolvedFound _ =>
      simp [Entry.SaysBuilding, entry, notFlattenedEntry, Json.asText?] at h

theorem building?_of_not_saysBuilding {event : Event} (h : ¬ event.entry.SaysBuilding) :
    event.building? = none := by
  cases event with
  | buildingObject _ _ => exact absurd ⟨rfl, .inl rfl⟩ h
  | buildingComposition _ _ _ => exact absurd ⟨rfl, .inr rfl⟩ h
  | unresolvedReference _ _ | notFlattened _ _ | graphLoaded _ _ | unresolvedFound _ => rfl

theorem eq_unresolvedReference_of_text {event : Event}
    (h : event.entry.text = .str "Unresolved type reference") :
    ∃ ref origin, event = .unresolvedReference ref origin := by
  cases event with
  | unresolvedReference ref origin => exact ⟨ref, origin, rfl⟩
  | buildingObject _ _ | buildingComposition _ _ _ | notFlattened _ _ | graphLoaded _ _
  | unresolvedFound _ => simp [entry, notFlattenedEntry] at h

end Log.Event

namespace DataType

/-- Whether the type stands in for a reference that fits nothing, whatever namespaces say. -/
def isStandIn : DataType → Bool
  | unresolved .. => true
  | _ => false

def isUnflattened (t : DataType) : Bool := t.composition?.any fun kind => !kind.isFlattened

/-- The warning that a type calls for. -/
def warning? (t : DataType) : Option Warning :=
  if t.isStandIn then some (.unresolved t.name)
  else (t.composition?.filter fun kind => !kind.isFlattened).map (.unflattened t.qualifiedName)

theorem warning?_eq_unresolved_iff {t : DataType} {ref : Text} :
    t.warning? = some (.unresolved ref) ↔ t.isStandIn = true ∧ t.name = ref := by
  cases t with
  | unresolved _ _ _ => simp [warning?, isStandIn]
  | primitive _ _ _ | object _ _ _ _ _ => simp [warning?, isStandIn, composition?]
  | composed _ _ _ _ kind _ => cases kind <;> simp [warning?, isStandIn, composition?]

theorem any_warning?_isUnflattened (t : DataType) :
    t.warning?.any Warning.isUnflattened = t.isUnflattened := by
  cases t with
  | unresolved _ _ _ | primitive _ _ _ | object _ _ _ _ _ => rfl
  | composed _ _ _ _ kind _ => cases kind <;> rfl

end DataType

namespace Definition

variable {id : Nat} {name : Text} {d : Definition} {targets : List DataType}

theorem warning?_buildEvent : (d.buildEvent name).warning? = none := by
  obtain ⟨ns, attributes, shape⟩ := d
  cases shape <;> rfl

theorem building?_buildEvent : (d.buildEvent name).building? = some name := by
  obtain ⟨ns, attributes, shape⟩ := d
  cases shape <;> rfl

theorem filterMap_warning?_constructionEvents :
    (d.assemble id name targets).constructionEvents.filterMap Log.Event.warning? =
      (d.assemble id name targets).warning?.toList := by
  obtain ⟨ns, attributes, shape⟩ := d
  cases shape with
  | object _ => rfl
  | composition kind _ => cases kind <;> rfl

end Definition

namespace DataType

theorem eq_notFlattened_of_mem {t : DataType} {event : Log.Event}
    (h : event ∈ t.constructionEvents) :
    ∃ qualifiedName kind, event = .notFlattened qualifiedName kind := by
  unfold constructionEvents at h
  split at h
  · split at h
    · cases h
    · exact ⟨_, _, List.mem_singleton.mp h⟩
  · cases h

theorem filterMap_building?_constructionEvents (t : DataType) :
    t.constructionEvents.filterMap Log.Event.building? = [] := by
  rw [List.filterMap_eq_nil_iff]
  intro event hevent
  obtain ⟨_, _, rfl⟩ := eq_notFlattened_of_mem hevent
  rfl

end DataType

namespace Mapping

universe u

variable {α : Type u}

theorem values_set_of_unkept {m : Mapping α} {name : Text} (value : α)
    (unkept : m.get? name = none) : (m.set name value).values = m.values ++ [value] := by
  rw [values, entries_set_of_notMem value (get?_eq_none_iff.mp unkept), List.map_append]
  rfl

theorem keys_set_of_unkept {m : Mapping α} {name : Text} (value : α)
    (unkept : m.get? name = none) : (m.set name value).keys = m.keys ++ [name] := by
  rw [keys_set, if_neg (get?_eq_none_iff.mp unkept)]

/-- Of entries that all bear one name there is at most one. -/
theorem countP_entries {m : Mapping α} {name : Text} {p : Text × α → Bool}
    (own : ∀ e ∈ m.entries, p e = true → e.1 = name) :
    m.entries.countP p = if (m.get? name).any (fun value => p (name, value)) then 1 else 0 := by
  obtain ⟨l, nodup⟩ := m
  change l.countP p = if (l.lookup name).any (fun value => p (name, value)) then 1 else 0
  change ∀ e ∈ l, p e = true → e.1 = name at own
  induction l with
  | nil => rfl
  | cons e l ih =>
      obtain ⟨k, value⟩ := e
      obtain ⟨first, rest⟩ := List.forall_mem_cons.mp own
      rw [List.map_cons, List.nodup_cons] at nodup
      rw [List.countP_cons, ih nodup.2 rest, List.lookup_cons]
      by_cases same : name = k
      · subst same
        have absent : l.lookup name = none := by
          rw [← Option.not_isSome_iff_eq_none, isSome_lookup_iff]
          exact nodup.1
        simp [absent]
      · have other : p (k, value) ≠ true := fun hp => same (first hp).symm
        simp [other, beq_eq_false_iff_ne.mpr same]

end Mapping

namespace Loader

/-- What has been logged. -/
def log (l : Loader) : List Log.Entry := l.events.map Log.Event.entry

def warnings (l : Loader) : List Warning := l.events.filterMap Log.Event.warning?

/-- The names whose types have been going to be built, once for every time. -/
def buildings (l : Loader) : List Text := l.events.filterMap Log.Event.building?

theorem countP_warnsOfReference (l : Loader) (ref : Text) :
    l.log.countP (fun e => e.WarnsOfReference ref) = l.warnings.count (.unresolved ref) := by
  rw [log, List.countP_map, warnings, List.count_filterMap]
  refine List.countP_congr fun event _ => ?_
  simp [Log.Event.warnsOfReference_entry_iff]

theorem countP_warnsOfComposition (l : Loader) :
    l.log.countP (fun e => e.WarnsOfComposition) = l.warnings.countP Warning.isUnflattened := by
  rw [log, List.countP_map, warnings, List.countP_filterMap]
  refine List.countP_congr fun event _ => ?_
  rw [Function.comp_apply, decide_eq_true_iff, Log.Event.warnsOfComposition_entry_iff]
  cases event.warning? <;> rfl

/-- The entries on types that are going to be built name these types. -/
theorem map_typeName?_log (l : Loader) :
    (l.log.filter fun e => e.SaysBuilding).map Log.Entry.typeName? = l.buildings.map some := by
  rw [log, buildings]
  induction l.events with
  | nil => rfl
  | cons event events ih =>
      rw [List.map_cons, List.filterMap_cons]
      by_cases h : event.entry.SaysBuilding
      · obtain ⟨name, built, named⟩ := Log.Event.building?_of_saysBuilding h
        rw [List.filter_cons_of_pos (by simpa using h), List.map_cons, ih, built, named]
        rfl
      · rw [List.filter_cons_of_neg (by simpa using h), ih,
          Log.Event.building?_of_not_saysBuilding h]

/-- Whether a name is kept with a type that stands in for it. -/
def StandsIn (l : Loader) (name : Text) : Bool :=
  (l.resolved.get? name).any DataType.isStandIn

/-- The loader after references have been resolved in turn, up to a failure if there is one. -/
def Follows (l : Loader) (refs : List Json) (l' : Loader) : Prop :=
  (∃ ts, l.Resolves refs ts l') ∨ ∃ e, l.Fails refs e l'

section Follows

variable {l : Loader}

theorem follows_resolve (idle : l.resolving = []) (ref : Json) :
    l.Follows [ref] (l.resolve ref).2 := by
  rcases h : l.resolve ref with ⟨e | t, l'⟩
  · exact .inr ⟨e, (resolve_eq_error_iff idle).mp h⟩
  · exact .inl ⟨[t], (resolve_eq_ok_iff idle).mp h⟩

/-- Loading follows the declared names, and says so if it gets through. -/
theorem follows_load (idle : l.resolving = []) :
    ∃ l₁ emitted, l.Follows l.declaredRefs l₁ ∧ l.load.2 = l₁.report emitted ∧
      ∀ event ∈ emitted, ∃ types resolved, event = .graphLoaded types resolved := by
  rcases h : l.load with ⟨e | types, l'⟩
  · refine ⟨l', [], .inr ⟨e, (load_eq_error_iff idle).mp h⟩, by simp [report], ?_⟩
    exact fun event hevent => absurd hevent List.not_mem_nil
  · obtain ⟨ts, l₁, resolves, -, rfl⟩ := (load_eq_ok_iff idle).mp h
    exact ⟨l₁, _, .inl ⟨ts, resolves⟩, rfl, fun event hevent =>
      ⟨_, _, List.mem_singleton.mp hevent⟩⟩

end Follows

/-- The warnings are those that the kept types call for. -/
def Warned (l : Loader) : Prop :=
  l.warnings = l.resolved.values.filterMap DataType.warning?

section Warned

variable {l l' : Loader} {refs : List Json} {ts : List DataType} {e : LoadFailure}

/-- A type may be kept along with the warning that it calls for. -/
theorem Warned.add (warned : l.Warned) {name : Text} {t : DataType} (emitted : List Log.Event)
    (unkept : l.resolved.get? name = none) (events : l'.events = l.events ++ emitted)
    (resolved : l'.resolved = l.resolved.set name t)
    (called : emitted.filterMap Log.Event.warning? = t.warning?.toList) : l'.Warned := by
  have before : l.events.filterMap Log.Event.warning? =
      l.resolved.values.filterMap DataType.warning? := warned
  rw [Warned, warnings, events, resolved, Mapping.values_set_of_unkept t unkept,
    List.filterMap_append, List.filterMap_append, before, called]
  cases h : t.warning? <;> simp [h]

theorem Warned.congr (warned : l.Warned) {emitted : List Log.Event}
    (events : l'.events = l.events ++ emitted) (resolved : l'.resolved = l.resolved)
    (silent : emitted.filterMap Log.Event.warning? = []) : l'.Warned := by
  rw [Warned, warnings, events, resolved, List.filterMap_append, silent, List.append_nil]
  exact warned

theorem Finds.warned {name : Text} {t : DataType} (h : l.Finds name t l') (warned : l.Warned) :
    l'.Warned := by
  cases h with
  | kept _ => exact warned
  | primitive fresh _ _ =>
      exact warned.add [] fresh.unkept (List.append_nil _).symm rfl rfl
  | unresolved fresh _ _ => exact warned.add [_] fresh.unkept rfl rfl rfl

theorem Warned.start (warned : l.Warned) (name : Text) (d : Definition) :
    (l.start name d).Warned := by
  refine warned.congr (l.start_events name d) rfl ?_
  rw [List.filterMap_cons, d.warning?_buildEvent, List.filterMap_nil]

/-- Between a warning and the keeping of its subject nothing can fail. -/
theorem Resolves.warned (h : l.Resolves refs ts l') (warned : l.Warned) : l'.Warned := by
  induction h with
  | nil => exact warned
  | found head _ ih => exact ih (head.warned warned)
  | @built l l₁ l₂ name d refs targets ts opens parts _ ihParts ihRest =>
      have inner := ihParts (warned.start name d)
      exact ihRest (inner.add _ (opens.unkept_of_resolves parts) (l₁.finish_events name _)
        (l₁.finish_resolved name _) Definition.filterMap_warning?_constructionEvents)

theorem Fails.warned (h : l.Fails refs e l') (warned : l.Warned) : l'.Warned := by
  induction h with
  | refused _ => exact warned
  | inside opens _ ih => exact ih (warned.start _ _)
  | later head _ ih => exact ih (head.warned warned)

theorem Follows.warned (h : l.Follows refs l') (warned : l.Warned) : l'.Warned := by
  rcases h with ⟨_, resolves⟩ | ⟨_, fails⟩
  · exact resolves.warned warned
  · exact fails.warned warned

theorem Steady.warned_perform (steady : l.Steady) (warned : l.Warned) (operation : Operation) :
    (l.perform operation).Warned := by
  cases operation with
  | resolve ref => exact (follows_resolve steady.idle ref).warned warned
  | load =>
      obtain ⟨l₁, emitted, follows, loaded, ends⟩ := follows_load steady.idle
      rw [Loader.perform, loaded]
      refine (follows.warned warned).congr rfl rfl ?_
      rw [List.filterMap_eq_nil_iff]
      intro event hevent
      obtain ⟨_, _, rfl⟩ := ends event hevent
      rfl
  | define _ _ | undefine _ => exact warned

theorem Steady.warned_run (steady : l.Steady) (warned : l.Warned) (operations : List Operation) :
    (l.run operations).Warned := by
  induction operations generalizing l with
  | nil => exact warned
  | cons operation operations ih =>
      exact ih (steady.perform operation).1 (steady.warned_perform warned operation)

/-- A name has one warning if it is kept with a stand-in, and none otherwise. -/
theorem Steady.count_unresolved (steady : l.Steady) (warned : l.Warned) (ref : Text) :
    l.warnings.count (.unresolved ref) = if l.StandsIn ref then 1 else 0 := by
  have named {name : Text} {t : DataType} (known : l.resolved.get? name = some t) :
      t.name = name := steady.explained.name_eq known
  rw [warned, List.count_filterMap, Mapping.values, List.countP_map, Mapping.countP_entries]
  · congr 1
    rw [StandsIn]
    cases known : l.resolved.get? ref with
    | none => rfl
    | some t => simp [DataType.warning?_eq_unresolved_iff, named known]
  · intro e he warns
    have := DataType.warning?_eq_unresolved_iff.mp (beq_iff_eq.mp warns)
    exact (named (Mapping.mem_entries_iff.mp he)).symm.trans this.2

theorem Warned.countP_unflattened (warned : l.Warned) :
    l.warnings.countP Warning.isUnflattened = l.resolved.values.countP DataType.isUnflattened := by
  rw [warned, List.countP_filterMap]
  refine List.countP_congr fun t _ => ?_
  rw [← DataType.any_warning?_isUnflattened]
  cases t.warning? <;> simp

end Warned

end Loader
end TypeGraph
