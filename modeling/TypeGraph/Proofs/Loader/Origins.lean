import TypeGraph.Proofs.Loader.Warnings

/-!
What is reported in the course of calls. A reference that fits nothing is put down to the definition
that mentions it, or to the caller if it is the caller who asks for it. A name is reported as being
built whenever its definition is followed, which loading does once for each declared name unless it
fails.
-/

namespace TypeGraph

namespace Loader

/-- Whom a reference that fits nothing is put down to, while others are resolved that lead to it:
the name being built, if it is one of these itself, and otherwise the name that mentions it. -/
inductive Blames (l : Loader) (refs : List Json) (ref : Text) : Option Text → Prop
  | asked (mentioned : .str ref ∈ refs) : Blames l refs ref l.current?
  | inside {root owner : Text} (mentioned : .str root ∈ refs)
      (path : Relation.ReflTransGen (Refers l.definitions) root owner)
      (refers : Refers l.definitions owner ref) : Blames l refs ref (some owner)

/-- What may be reported while references are resolved. -/
def Warrants (l : Loader) (refs : List Json) : Log.Event → Prop
  | .unresolvedReference ref origin => ref ∉ l.definitions.keys ∧ l.Blames refs ref origin
  | _ => True

/-- Events are only added, and each of these has a property. -/
def Reports (p : Log.Event → Prop) (l l' : Loader) : Prop :=
  ∃ emitted, l'.events = l.events ++ emitted ∧ ∀ event ∈ emitted, p event

section Reports

variable {p q : Log.Event → Prop} {l l' l₁ l₂ : Loader}

theorem Reports.of_eq (same : l'.events = l.events) : Reports p l l' :=
  ⟨[], by rw [same, List.append_nil], fun event hevent => absurd hevent List.not_mem_nil⟩

theorem Reports.trans (h : Reports p l l₁) (h' : Reports p l₁ l₂) : Reports p l l₂ := by
  obtain ⟨emitted, events, all⟩ := h
  obtain ⟨emitted', events', all'⟩ := h'
  refine ⟨emitted ++ emitted', ?_, fun event hevent => ?_⟩
  · rw [events', events, List.append_assoc]
  · exact (List.mem_append.mp hevent).elim (all event) (all' event)

theorem Reports.imp (h : Reports p l l') (weaker : ∀ event, p event → q event) :
    Reports q l l' := by
  obtain ⟨emitted, events, all⟩ := h
  exact ⟨emitted, events, fun event hevent => weaker event (all event hevent)⟩

end Reports

section Warrants

variable {l l' : Loader} {refs refs' : List Json} {event : Log.Event}

theorem Warrants.mono (subset : refs ⊆ refs') (h : l.Warrants refs event) :
    l.Warrants refs' event := by
  cases event with
  | unresolvedReference ref origin =>
      obtain ⟨undeclared, blames⟩ := h
      refine ⟨undeclared, ?_⟩
      cases blames with
      | asked mentioned => exact .asked (subset mentioned)
      | inside mentioned path refers => exact .inside (subset mentioned) path refers
  | _ => trivial

theorem Warrants.congr (frame : l'.definitions = l.definitions ∧ l'.resolving = l.resolving)
    (h : l'.Warrants refs event) : l.Warrants refs event := by
  cases event with
  | unresolvedReference ref origin =>
      obtain ⟨undeclared, blames⟩ := h
      rw [frame.1] at undeclared
      refine ⟨undeclared, ?_⟩
      cases blames with
      | asked mentioned =>
          have same : l'.current? = l.current? := congrArg List.getLast? frame.2
          exact same ▸ .asked mentioned
      | inside mentioned path refers =>
          rw [frame.1] at path refers
          exact .inside mentioned path refers
  | _ => trivial

theorem Reports.later {l₁ l₂ : Loader} {ref : Json} (h : Reports (l₁.Warrants refs) l₁ l₂)
    (frame : l₁.definitions = l.definitions ∧ l₁.resolving = l.resolving) :
    Reports (l.Warrants (ref :: refs)) l₁ l₂ :=
  h.imp fun _ warrants => (warrants.congr frame).mono (List.subset_cons_self _ _)

/-- What is reported on behalf of a definition's parts is put down to it, or to a name below it. -/
theorem Warrants.of_parts {name : Text} {d : Definition} (opens : l.Opens name d)
    (h : (l.start name d).Warrants d.references event) :
    l.Warrants (.str name :: refs) event := by
  cases event with
  | unresolvedReference ref origin =>
      obtain ⟨undeclared, blames⟩ := h
      refine ⟨undeclared, ?_⟩
      cases blames with
      | asked mentioned =>
          have own : (l.start name d).current? = some name := List.getLast?_concat
          rw [own]
          exact .inside (List.mem_cons_self ..) .refl (opens.refers mentioned)
      | inside mentioned path refers =>
          exact .inside (List.mem_cons_self ..) (.head (opens.refers mentioned) path) refers
  | _ => trivial

theorem Finds.reports {name : Text} {t : DataType} (h : l.Finds name t l') :
    Reports (l.Warrants (.str name :: refs)) l l' := by
  cases h with
  | kept _ | primitive _ _ _ => exact .of_eq rfl
  | unresolved _ undeclared _ =>
      refine ⟨[_], rfl, fun event hevent => ?_⟩
      rw [List.mem_singleton.mp hevent]
      exact ⟨Mapping.get?_eq_none_iff.mp undeclared, .asked (List.mem_cons_self ..)⟩

theorem reports_start (name : Text) (d : Definition) :
    Reports (l.Warrants refs) l (l.start name d) := by
  refine ⟨[_], l.start_events name d, fun event hevent => ?_⟩
  rw [List.mem_singleton.mp hevent, Definition.buildEvent]
  split <;> trivial

theorem reports_finish (name : Text) (t : DataType) :
    Reports (l.Warrants refs) l' (l'.finish name t) := by
  refine ⟨_, l'.finish_events name t, fun event hevent => ?_⟩
  obtain ⟨_, _, rfl⟩ := DataType.eq_notFlattened_of_mem hevent
  trivial

theorem Resolves.reports {ts : List DataType} (h : l.Resolves refs ts l') :
    Reports (l.Warrants refs) l l' := by
  induction h with
  | nil => exact .of_eq rfl
  | found head _ ih =>
      exact head.reports.trans (ih.later head.frame)
  | @built l l₁ l₂ name d refs targets ts opens parts _ ihParts ihRest =>
      have frame := (Resolves.built opens parts .nil).frame
      have inner : Reports (l.Warrants (.str name :: refs)) (l.start name d) l₁ :=
        ihParts.imp fun _ warrants => warrants.of_parts opens
      exact ((reports_start name d).trans inner).trans
        ((reports_finish name _).trans (ihRest.later frame))

theorem Fails.reports {e : LoadFailure} (h : l.Fails refs e l') :
    Reports (l.Warrants refs) l l' := by
  induction h with
  | refused _ => exact .of_eq rfl
  | @inside l l₁ name d refs e opens parts ih =>
      exact (reports_start name d).trans (ih.imp fun _ warrants => warrants.of_parts opens)
  | @later l l₁ _ ref _ refs _ head _ ih =>
      have first : Reports (l.Warrants (ref :: refs)) l l₁ :=
        head.reports.imp fun _ warrants =>
          warrants.mono (List.cons_subset_cons ref (List.nil_subset refs))
      exact first.trans (ih.later head.frame)

theorem Follows.reports (h : l.Follows refs l') : Reports (l.Warrants refs) l l' := by
  rcases h with ⟨_, resolves⟩ | ⟨_, fails⟩
  · exact resolves.reports
  · exact fails.reports

end Warrants

/-- Where nothing has failed, the names that have been reported as being built are the declared ones
among those that are kept or on the stack. -/
def BuiltOnce (l : Loader) : Prop :=
  l.buildings.Perm ((l.resolved.keys ++ l.resolving).filter (· ∈ l.definitions.keys))

section BuiltOnce

variable {l l' : Loader} {name : Text}

theorem BuiltOnce.add {t : DataType} (once : l.BuiltOnce) (unkept : l.resolved.get? name = none)
    (undeclared : l.definitions.get? name = none) (events : l'.buildings = l.buildings)
    (resolved : l'.resolved = l.resolved.set name t)
    (frame : l'.definitions = l.definitions ∧ l'.resolving = l.resolving) : l'.BuiltOnce := by
  have absent : name ∉ l.definitions.keys := Mapping.get?_eq_none_iff.mp undeclared
  rw [BuiltOnce, events, resolved, frame.1, frame.2, Mapping.keys_set_of_unkept t unkept,
    List.filter_append, List.filter_append, List.filter_singleton, decide_eq_false absent,
    cond_false, List.append_nil, ← List.filter_append]
  exact once

theorem Finds.builtOnce {t : DataType} (h : l.Finds name t l') (once : l.BuiltOnce) :
    l'.BuiltOnce := by
  cases h with
  | kept _ => exact once
  | primitive fresh undeclared _ => exact once.add fresh.unkept undeclared rfl rfl ⟨rfl, rfl⟩
  | unresolved fresh undeclared _ =>
      have silent : (l.events ++ [Log.Event.unresolvedReference name l.current?]).filterMap
          Log.Event.building? = l.buildings := List.filterMap_append.trans (List.append_nil _)
      exact once.add fresh.unkept undeclared silent rfl ⟨rfl, rfl⟩

theorem BuiltOnce.start {d : Definition} (once : l.BuiltOnce) (opens : l.Opens name d) :
    (l.start name d).BuiltOnce := by
  have added : (l.start name d).buildings = l.buildings ++ [name] := by
    rw [buildings, start_events, List.filterMap_append, List.filterMap_cons,
      Definition.building?_buildEvent, List.filterMap_nil]
    rfl
  rw [BuiltOnce, added, start_resolved, start_resolving, start_definitions, ← List.append_assoc,
    List.filter_append, List.filter_singleton, decide_eq_true opens.mem_keys, cond_true]
  exact once.append_right [name]

theorem BuiltOnce.finish {names : List Text} (once : l.BuiltOnce)
    (resolving : l.resolving = names ++ [name]) (unkept : l.resolved.get? name = none)
    (t : DataType) : (l.finish name t).BuiltOnce := by
  have same : (l.finish name t).buildings = l.buildings := by
    rw [buildings, finish_events, List.filterMap_append,
      t.filterMap_building?_constructionEvents, List.append_nil, buildings]
  rw [BuiltOnce, resolving] at once
  rw [BuiltOnce, same, finish_resolved, finish_resolving, finish_definitions, resolving,
    List.dropLast_concat, Mapping.keys_set_of_unkept t unkept, List.append_assoc]
  exact once.trans ((List.perm_append_comm.append_left _).filter _)

theorem Resolves.builtOnce {refs : List Json} {ts : List DataType} (h : l.Resolves refs ts l')
    (once : l.BuiltOnce) : l'.BuiltOnce := by
  induction h with
  | nil => exact once
  | found head _ ih => exact ih (head.builtOnce once)
  | built opens parts _ ihParts ihRest =>
      have inner := ihParts (once.start opens)
      exact ihRest (inner.finish parts.frame.2 (opens.unkept_of_resolves parts) _)

/-- Loading a document on a new loader reports each declared name once as being built. -/
theorem buildings_of_loaded {definitions : Mapping Json} {types : Mapping DataType}
    (h : (ofDefinitions definitions).load = (.ok types, l)) :
    l.buildings.Perm definitions.keys := by
  obtain ⟨ts, l₁, resolves, -, rfl⟩ := (load_eq_ok_iff rfl).mp h
  have once : l₁.BuiltOnce := resolves.builtOnce (List.Perm.refl [])
  have same : l₁.definitions = definitions := resolves.frame.1
  have idle : l₁.resolving = [] := resolves.frame.2
  have silent {types resolved : Nat} :
      (l₁.report [.graphLoaded types resolved]).buildings = l₁.buildings :=
    List.filterMap_append.trans (List.append_nil _)
  rw [BuiltOnce, idle, List.append_nil, same] at once
  rw [silent]
  refine once.trans ((List.perm_ext_iff_of_nodup (l₁.resolved.keys_nodup.filter _)
    definitions.keys_nodup).mpr fun name => ?_)
  rw [List.mem_filter, decide_eq_true_iff]
  exact ⟨fun h => h.2, fun declared => ⟨resolves.mem_keys (List.mem_map_of_mem declared), declared⟩⟩

end BuiltOnce

/-- References that are all kept are answered without further ado. -/
theorem resolves_of_kept {l : Loader} {names : List Text} (kept : names ⊆ l.resolved.keys) :
    ∃ ts, l.Resolves (names.map .str) ts l := by
  induction names with
  | nil => exact ⟨[], .nil⟩
  | cons name names ih =>
      obtain ⟨head, tail⟩ := List.cons_subset.mp kept
      obtain ⟨t, known⟩ := Mapping.exists_get?_of_mem_keys head
      obtain ⟨ts, resolves⟩ := ih tail
      exact ⟨t :: ts, .found (.kept known) resolves⟩

section Run

variable {l : Loader}

theorem Steady.reports_perform (steady : l.Steady) (operation : Operation) :
    ∃ emitted, (l.perform operation).events = l.events ++ emitted ∧
      ∀ ref origin, .unresolvedReference ref origin ∈ emitted →
        (origin = none ∧ operation = .resolve (.str ref)) ∨
        ∃ owner, origin = some owner ∧ Refers l.definitions owner ref ∧
          operation ≠ .resolve (.str ref) := by
  have nobody : l.current? = none := by rw [current?, steady.idle, List.getLast?_nil]
  cases operation with
  | resolve ref =>
      obtain ⟨emitted, events, warrants⟩ := (follows_resolve steady.idle ref).reports
      refine ⟨emitted, events, fun missing origin hevent => ?_⟩
      obtain ⟨undeclared, blames⟩ := warrants _ hevent
      cases blames with
      | asked mentioned => exact .inl ⟨nobody, by rw [List.mem_singleton.mp mentioned]⟩
      | @inside root owner mentioned path refers =>
          refine .inr ⟨owner, rfl, refers, ?_⟩
          rintro ⟨⟩
          obtain rfl := Json.str.inj (List.mem_singleton.mp mentioned)
          -- What leads to another name is declared.
          rcases Relation.ReflTransGen.cases_head path with rfl | ⟨_, first, -⟩
          · exact undeclared refers.declared
          · exact undeclared first.declared
  | load =>
      obtain ⟨l₁, ending, follows, loaded, ends⟩ := follows_load steady.idle
      obtain ⟨emitted, events, warrants⟩ := follows.reports
      refine ⟨emitted ++ ending, ?_, fun missing origin hevent => ?_⟩
      · rw [Loader.perform, loaded, ← List.append_assoc, ← events]
        rfl
      · rcases List.mem_append.mp hevent with hevent | hevent
        · obtain ⟨undeclared, blames⟩ := warrants _ hevent
          cases blames with
          | asked mentioned =>
              obtain ⟨name, declared, same⟩ := List.mem_map.mp mentioned
              exact absurd (Json.str.inj same ▸ declared) undeclared
          | inside _ _ refers =>
              refine .inr ⟨_, rfl, refers, ?_⟩
              rintro ⟨⟩
        · obtain ⟨_, _, same⟩ := ends _ hevent
          cases same
  | define _ _ | undefine _ =>
      exact ⟨[], (List.append_nil _).symm, fun _ _ hevent => absurd hevent List.not_mem_nil⟩

end Run

/-- The log of a loader after one more operation. A reference that fits nothing is logged along with
the definition that mentions it, or with null if the caller asked for it. -/
theorem Steady.log_perform {l : Loader} (steady : l.Steady) (operation : Operation) :
    ∃ added, (l.perform operation).log = l.log ++ added ∧
      ∀ e ∈ added, e.text = .str "Unresolved type reference" →
        ∃ (ref : Text) (origin : Json), e.level = .warning ∧
          e.fields = Mapping.ofList [("ref", .str ref), ("referenced_from", origin)] ∧
          ((origin = .null ∧ operation = .resolve (.str ref)) ∨
            ∃ owner, origin = .str owner ∧ Refers l.definitions owner ref ∧
              operation ≠ .resolve (.str ref)) := by
  obtain ⟨emitted, events, origins⟩ := steady.reports_perform operation
  refine ⟨emitted.map Log.Event.entry, ?_, fun e he text => ?_⟩
  · rw [log, events, List.map_append]
    rfl
  · obtain ⟨event, hevent, rfl⟩ := List.mem_map.mp he
    obtain ⟨ref, origin, rfl⟩ := Log.Event.eq_unresolvedReference_of_text text
    refine ⟨ref, origin.elim .null .str, rfl, rfl, ?_⟩
    rcases origins ref origin hevent with ⟨rfl, asked⟩ | ⟨owner, rfl, refers, other⟩
    · exact .inl ⟨rfl, asked⟩
    · exact .inr ⟨owner, rfl, refers, other⟩

/-- Over all that is done with a loader, a name is warned about once if it is kept with a stand-in
and never otherwise, and each such warning names the definition that mentions the reference, or
nobody if the caller asked for it. There are as many other warnings as kept compositions without
properties. Calls that find everything kept log neither warnings nor names being built, and a new
loader that loads logs each declared name once as being built. -/
theorem run_reports_once (definitions : Mapping Json) (operations : List Operation) :
    let l := (ofDefinitions definitions).run operations
    (∀ ref, l.log.countP (fun e => e.WarnsOfReference ref) = if l.StandsIn ref then 1 else 0) ∧
    l.log.countP (fun e => e.WarnsOfComposition) =
      l.resolved.values.countP DataType.isUnflattened ∧
    (∀ operation, ∃ added, (l.perform operation).log = l.log ++ added ∧
      ∀ e ∈ added, e.text = .str "Unresolved type reference" →
        ∃ (ref : Text) (origin : Json), e.level = .warning ∧
          e.fields = Mapping.ofList [("ref", .str ref), ("referenced_from", origin)] ∧
          ((origin = .null ∧ operation = .resolve (.str ref)) ∨
            ∃ owner, origin = .str owner ∧ Refers l.definitions owner ref ∧
              operation ≠ .resolve (.str ref))) ∧
    (∀ name ∈ l.resolved.keys, (l.resolve (.str name)).2 = l) ∧
    (l.definitions.keys ⊆ l.resolved.keys → ∃ types l' e, l.load = (.ok types, l') ∧
      l' = l.report [.graphLoaded types.size l.resolved.size] ∧ l'.log = l.log ++ [e] ∧
      e.level = .debug ∧ e.text = .str "Type graph loaded") ∧
    ∀ types l', (ofDefinitions definitions).load = (.ok types, l') →
      ((l'.log.filter fun e => e.SaysBuilding).map Log.Entry.typeName?).Perm
        (definitions.keys.map some) := by
  intro l
  have new := steady_ofDefinitions definitions
  have steady : l.Steady := (new.run operations).1
  have warned : l.Warned := new.warned_run rfl operations
  refine ⟨fun ref => ?references, ?compositions, steady.log_perform, ?resolveKept, ?loadKept,
    fun types l' loaded => ?buildings⟩
  case references => rw [l.countP_warnsOfReference, steady.count_unresolved warned]
  case compositions => rw [l.countP_warnsOfComposition, warned.countP_unflattened]
  case resolveKept =>
    intro name kept
    obtain ⟨t, known⟩ := Mapping.exists_get?_of_mem_keys kept
    rw [resolve_of_kept known]
  case loadKept =>
    intro kept
    obtain ⟨ts, resolves⟩ := resolves_of_kept kept
    exact ⟨_, _, _, (load_eq_ok_iff steady.idle).mpr ⟨ts, l, resolves, rfl, rfl⟩, rfl,
      List.map_append, rfl, rfl⟩
  case buildings =>
    rw [l'.map_typeName?_log]
    exact (buildings_of_loaded loaded).map some

/-- A failed call that is tried again does not repeat its warnings. -/
example :
    ((ofDefinitions (.ofList [
      ("A", .obj [("type", .str "oneOf"), ("items", .arr [.str "Gone", .str "B"])]),
      ("B", .null)])).run [.load, .load, .define "B" (.obj []), .load]).warnings =
    [.unresolved "Gone", .unflattened "A" .oneOf] := rfl

end Loader
end TypeGraph
