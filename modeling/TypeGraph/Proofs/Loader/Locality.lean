import TypeGraph.Proofs.Loader.Agreement

/-!
What a reference resolves to depends on nothing but the definitions that it reaches. Where in a
document these stand makes no difference, nor does anything else that is declared, be it malformed
or part of a cycle. So documents that declare the same in different orders load alike.
-/

namespace TypeGraph

theorem Mapping.get?_eq_of_perm {α : Type} {m n : Mapping α} (h : n.entries.Perm m.entries)
    (name : Text) : n.get? name = m.get? name := by
  refine Option.ext fun value => ?_
  rw [← Mapping.mem_entries_iff, ← Mapping.mem_entries_iff, h.mem_iff]

namespace Loader

/-- The names that a reference comes to, through definitions of whatever kind: its own and those
that they mention. -/
def Touches (definitions : Mapping Json) (ref : Json) (name : Text) : Prop :=
  ∃ root, ref = .str root ∧ Relation.ReflTransGen (Refers definitions) root name

/-- A reference comes to the same end with two documents' definitions, up to identities. -/
def ResolvesAlike (definitions definitions' : Mapping Json) (ref : Json) : Prop :=
  SameOutcome (fun t u => DataType.Alike [t] [u]) ((ofDefinitions definitions).resolve ref).1
    ((ofDefinitions definitions').resolve ref).1

/-- Types that one relabelling turns into the others, name by name and in whatever order. -/
def SameByName (types types' : Mapping DataType) : Prop :=
  ∃ f : Nat → Nat, Set.InjOn f {i | i ∈ DataType.idsOfEach types.values} ∧
    ∀ name, types'.get? name = (types.get? name).map (DataType.relabel f)

section Reaching

variable {definitions definitions' : Mapping Json}

/-- What a reference touches is closed under mentioning, so nothing else matters to it. -/
theorem sameOn_touched {ref : Json}
    (same : ∀ name, Touches definitions ref name →
      definitions'.get? name = definitions.get? name) :
    SameOn {name | Touches definitions ref name} definitions definitions' := by
  refine ⟨same, ?_⟩
  rintro name ⟨root, rfl, path⟩ definition declared part mentions
  exact ⟨root, rfl, path.tail ⟨definition, declared, mentions⟩⟩

theorem resolvesAlike_of_touched {ref : Json}
    (same : ∀ name, Touches definitions ref name →
      definitions'.get? name = definitions.get? name) :
    ResolvesAlike definitions definitions' ref :=
  (settled_ofDefinitions definitions).resolve_sameOutcome (settled_ofDefinitions definitions')
    (sameOn_touched same) fun name hname => ⟨name, hname, .refl⟩

theorem sameOn_univ (same : ∀ name, definitions'.get? name = definitions.get? name) :
    SameOn Set.univ definitions definitions' :=
  ⟨fun name _ => same name, fun _ _ _ _ _ _ => Set.mem_univ _⟩

end Reaching

section Reordering

variable {a b : Loader}

theorem SameOn.loads (same : SameOn Set.univ a.definitions b.definitions) (ha : a.Settled)
    (hb : b.Settled) (loads : ∃ types, a.load.1 = .ok types) :
    ∃ types, b.load.1 = .ok types := by
  obtain ⟨wellFormed, acyclic⟩ := (load_ok_iff_sound ha.idle ha.coherent).mp loads
  refine (load_ok_iff_sound hb.idle hb.coherent).mpr ⟨?_, ?_⟩
  · intro name definition declared
    rw [same.same name (Set.mem_univ _)] at declared
    exact wellFormed name definition declared
  · exact fun name cycle => acyclic name (same.symm.onCycle (Set.mem_univ _) cycle)

section Loaded

variable {a₁ b₁ : Loader} {ts us : List DataType}

theorem SameOn.mem_keys_loaded (same : SameOn Set.univ a.definitions b.definitions)
    (ha : a.Resolves a.declaredRefs ts a₁) (hb : b.Resolves b.declaredRefs us b₁) (name : Text) :
    name ∈ (Mapping.ofList (b.definitions.keys.zip us)).keys ↔
      name ∈ (Mapping.ofList (a.definitions.keys.zip ts)).keys := by
  rw [keys_of_resolves ha, keys_of_resolves hb, ← Mapping.isSome_get?_iff,
    same.same name (Set.mem_univ _), Mapping.isSome_get?_iff]

/-- What one loader gives under a name the other one gives too, with other places. -/
theorem SameOn.get?_loaded (same : SameOn Set.univ a.definitions b.definitions)
    (coherent : a.Coherent) (coherent' : b.Coherent) (ha : a.Resolves a.declaredRefs ts a₁)
    (hb : b.Resolves b.declaredRefs us b₁) {name : Text} {t : DataType}
    (known : (Mapping.ofList (a.definitions.keys.zip ts)).get? name = some t) :
    (Mapping.ofList (b.definitions.keys.zip us)).get? name =
        some (t.relabel (transport a₁.resolved b₁.resolved)) ∧
      ∀ i ∈ t.ids, i ∈ Common a₁.resolved b₁.resolved := by
  have same₁ : SameOn Set.univ a₁.definitions b₁.definitions := by
    rw [ha.frame.1, hb.frame.1]
    exact same
  obtain ⟨u, known'⟩ := Mapping.exists_get?_of_mem_keys
    ((same.mem_keys_loaded ha hb name).mpr (Mapping.mem_keys_of_get? known))
  obtain ⟨rfl, hids⟩ := (ha.coherent coherent).alike (hb.coherent coherent') same₁
    (Set.mem_univ _) (kept_of_loaded ha known) (kept_of_loaded hb known')
  exact ⟨known', hids⟩

end Loaded

/-- Types loaded from the same declarations are the same under each name, though the places that
they were given on the way may differ. -/
theorem SameOn.sameByName (same : SameOn Set.univ a.definitions b.definitions) (ha : a.Settled)
    (hb : b.Settled) {types types' : Mapping DataType} (loaded : a.load.1 = .ok types)
    (loaded' : b.load.1 = .ok types') : SameByName types types' := by
  obtain ⟨ts, a₁, resolves, rfl, -⟩ := (load_eq_ok_iff ha.idle).mp (Prod.ext loaded rfl)
  obtain ⟨us, b₁, resolves', rfl, -⟩ := (load_eq_ok_iff hb.idle).mp (Prod.ext loaded' rfl)
  refine ⟨transport a₁.resolved b₁.resolved, ?_, fun name => ?_⟩
  · refine (transport_injOn a₁.resolved b₁.resolved).mono fun i hi => ?_
    change i ∈ DataType.idsOfEach _ at hi
    rw [DataType.idsOfEach_eq, List.mem_flatMap] at hi
    obtain ⟨t, ht, hi⟩ := hi
    obtain ⟨name, known⟩ := Mapping.mem_values_iff.mp ht
    exact (same.get?_loaded ha.coherent hb.coherent resolves resolves' known).2 i hi
  · rcases known : (Mapping.ofList (a.definitions.keys.zip ts)).get? name with _ | t
    · rw [Mapping.get?_eq_none_iff, ← same.mem_keys_loaded resolves resolves' name] at known
      exact Mapping.get?_eq_none_iff.mpr known
    · exact (same.get?_loaded ha.coherent hb.coherent resolves resolves' known).1

end Reordering

/-- What a reference comes to is decided by the definitions that it touches: not by anything else
that is declared, now or after an edit, and not by where definitions stand. Whole documents in
another order load if and only if they load in this one, and give the same types by name. -/
theorem outcome_is_local (definitions definitions' : Mapping Json) :
    (∀ ref, (∀ name, Touches definitions ref name →
        definitions'.get? name = definitions.get? name) →
      ResolvesAlike definitions definitions' ref) ∧
    (∀ ref name definition, ¬ Touches definitions ref name →
      ResolvesAlike definitions (definitions.set name definition) ref ∧
        ResolvesAlike definitions (definitions.erase name) ref) ∧
    (definitions'.entries.Perm definitions.entries →
      (∀ ref, ResolvesAlike definitions definitions' ref) ∧
      ((∃ types, (ofDefinitions definitions).load.1 = .ok types) ↔
        ∃ types, (ofDefinitions definitions').load.1 = .ok types) ∧
      ∀ types types', (ofDefinitions definitions).load.1 = .ok types →
        (ofDefinitions definitions').load.1 = .ok types' → SameByName types types') := by
  refine ⟨fun ref same => resolvesAlike_of_touched same, ?unrelated, ?reordered⟩
  case unrelated =>
    intro ref name definition untouched
    have other {touched : Text} (h : Touches definitions ref touched) : touched ≠ name :=
      fun same => untouched (same ▸ h)
    constructor
    · refine resolvesAlike_of_touched fun touched h => ?_
      rw [Mapping.get?_set, if_neg (other h)]
    · exact resolvesAlike_of_touched fun touched h => definitions.get?_erase_of_ne (other h)
  case reordered =>
    intro perm
    have same := sameOn_univ (Mapping.get?_eq_of_perm perm)
    have settled := settled_ofDefinitions definitions
    have settled' := settled_ofDefinitions definitions'
    refine ⟨fun ref => resolvesAlike_of_touched fun name _ => Mapping.get?_eq_of_perm perm name,
      ⟨same.loads settled settled', same.symm.loads settled' settled⟩, ?_⟩
    exact fun types types' loaded loaded' => same.sameByName settled settled' loaded loaded'

/-- Documents that fail in every order need not fail alike: the first fault is reported. -/
example :
    (ofDefinitions (.ofList [("A", .null), ("B", .int 1)])).load.1 =
      .error (.graph (.definitionNotMapping "A")) ∧
    (ofDefinitions (.ofList [("B", .int 1), ("A", .null)])).load.1 =
      .error (.graph (.definitionNotMapping "B")) :=
  ⟨rfl, rfl⟩

end Loader
end TypeGraph
