import Mathlib.Data.List.GetD
import TypeGraph.Proofs.Loader.Acyclicity
import TypeGraph.Proofs.Relabelling

/-!
Loaders that agree. What a reference resolves to depends on the definitions that it reaches, and
on nothing else: two loaders that declare these alike give the same types up to identities, or
fail in the same way, however much either of them keeps already.
-/

namespace TypeGraph

/-- How two calls end: in the same failure, or in results that are related. -/
inductive SameOutcome {α : Type} (same : α → α → Prop) :
    Except LoadFailure α → Except LoadFailure α → Prop
  | error (e : LoadFailure) : SameOutcome same (.error e) (.error e)
  | ok {a b : α} (h : same a b) : SameOutcome same (.ok a) (.ok b)

theorem SameOutcome.eq_error {α : Type} {same : α → α → Prop} {x y : Except LoadFailure α}
    (h : SameOutcome same x y) {e : LoadFailure} (failed : x = .error e) : y = .error e := by
  cases h with
  | error _ => exact failed
  | ok _ => cases failed

namespace Loader

/-- Declarations that say the same of some names, and of everything that these mention. -/
structure SameOn (names : Set Text) (definitions definitions' : Mapping Json) : Prop where
  same : ∀ name ∈ names, definitions'.get? name = definitions.get? name
  closed : ∀ name ∈ names, ∀ definition, definitions.get? name = some definition →
    ∀ part, Definition.Mentions definition part → part ∈ names

theorem SameOn.refl (definitions : Mapping Json) : SameOn Set.univ definitions definitions :=
  ⟨fun _ _ => rfl, fun _ _ _ _ _ _ => Set.mem_univ _⟩

section SameOn

variable {names : Set Text} {definitions definitions' : Mapping Json}

theorem SameOn.symm (h : SameOn names definitions definitions') :
    SameOn names definitions' definitions := by
  refine ⟨fun name hname => (h.same name hname).symm, ?_⟩
  intro name hname definition declared
  rw [h.same name hname] at declared
  exact h.closed name hname definition declared

theorem SameOn.edge (h : SameOn names definitions definitions') {name part : Text}
    (hname : name ∈ names) (edge : Edge definitions name part) :
    part ∈ names ∧ Edge definitions' name part := by
  obtain ⟨declared, definition, known, mentions⟩ := edge
  have hpart := h.closed name hname definition known part mentions
  refine ⟨hpart, ?_, definition, (h.same name hname).trans known, mentions⟩
  rwa [← Mapping.isSome_get?_iff, h.same part hpart, Mapping.isSome_get?_iff]

theorem SameOn.reaches (h : SameOn names definitions definitions') {name reached : Text}
    (hname : name ∈ names) (reaches : Reaches definitions name reached) :
    reached ∈ names ∧ Reaches definitions' name reached := by
  induction reaches with
  | refl => exact ⟨hname, .refl⟩
  | tail _ edge ih =>
      obtain ⟨hlast, edge'⟩ := h.edge ih.1 edge
      exact ⟨hlast, ih.2.tail edge'⟩

theorem SameOn.onCycle (h : SameOn names definitions definitions') {name : Text}
    (hname : name ∈ names) (cycle : OnCycle definitions name) : OnCycle definitions' name := by
  obtain ⟨first, edge, back⟩ := Relation.TransGen.head'_iff.mp cycle
  obtain ⟨hfirst, edge'⟩ := h.edge hname edge
  exact Relation.TransGen.head'_iff.mpr ⟨first, edge', (h.reaches hfirst back).2⟩

/-- Whether a name can be resolved depends on what it reaches. -/
theorem SameOn.sound (h : SameOn names definitions definitions') {name : Text}
    (hname : name ∈ names)
    (sound : WellFormedFrom definitions name ∧ AcyclicFrom definitions name) :
    WellFormedFrom definitions' name ∧ AcyclicFrom definitions' name := by
  constructor
  · intro reached definition reaches declared
    obtain ⟨hreached, reaches'⟩ := h.symm.reaches hname reaches
    exact sound.1 reached definition reaches' ((h.symm.same reached hreached).trans declared)
  · intro reached reaches cycle
    obtain ⟨hreached, reaches'⟩ := h.symm.reaches hname reaches
    exact sound.2 reached reaches' (h.symm.onCycle hreached cycle)

end SameOn

theorem Faulty.not_sound {definitions : Mapping Json} {e : LoadFailure} {name : Text}
    (h : Faulty definitions e name) :
    ¬ (WellFormedFrom definitions name ∧ AcyclicFrom definitions name) := by
  rintro ⟨wellFormed, acyclic⟩
  rcases h.2 with illFormed | ⟨-, cyclic⟩
  · exact illFormed wellFormed
  · exact cyclic acyclic

/-- The place of a name among others' names, given its place among one's own. -/
def transport (m n : Mapping DataType) (place : Nat) : Nat := n.position (m.keys.getD place "")

theorem transport_position {m : Mapping DataType} (n : Mapping DataType) {name : Text}
    (h : name ∈ m.keys) : transport m n (m.position name) = n.position name := by
  have hlt : m.keys.idxOf name < m.keys.length := List.idxOf_lt_length_of_mem h
  have hget : m.keys.getD (m.position name) "" = name := by
    rw [Mapping.position, List.getD_eq_getElem _ _ hlt, List.getElem_idxOf]
  rw [transport, hget]

def Common (m n : Mapping DataType) : Set Nat :=
  {place | ∃ name ∈ m.keys, name ∈ n.keys ∧ m.position name = place}

theorem transport_injOn (m n : Mapping DataType) : Set.InjOn (transport m n) (Common m n) := by
  rintro _ ⟨name, hm, hn, rfl⟩ _ ⟨other, hm', -, rfl⟩ same
  rw [transport_position n hm, transport_position n hm'] at same
  rw [Mapping.position_injective hn same]

theorem relabel_parts {m n : Mapping DataType} {place place' : Nat} {refs : List Json}
    {ts us : List DataType} (hm : List.Forall₂ (KeptBefore m place) refs ts)
    (hn : List.Forall₂ (KeptBefore n place') refs us) {f : Nat → Nat} {ids : Set Nat}
    (parts : ∀ name t u, .str name ∈ refs → m.get? name = some t → m.position name < place →
      n.get? name = some u → u = t.relabel f ∧ ∀ i ∈ t.ids, i ∈ ids) :
    us = ts.map (DataType.relabel f) ∧ ∀ t ∈ ts, ∀ i ∈ t.ids, i ∈ ids := by
  induction hm generalizing us with
  | nil =>
      cases hn
      exact ⟨rfl, fun t ht => absurd ht List.not_mem_nil⟩
  | @cons ref t refs ts head _ ih =>
      cases hn with
      | @cons _ u _ us head' tail' =>
          obtain ⟨name, rfl, known, before⟩ := head
          obtain ⟨_, same, known', -⟩ := head'
          obtain rfl := Json.str.inj same
          obtain ⟨rfl, hids⟩ := parts name t u (List.mem_cons_self ..) known before known'
          obtain ⟨rfl, hrest⟩ := ih tail' fun other t u hmem =>
            parts other t u (List.mem_cons_of_mem _ hmem)
          exact ⟨rfl, List.forall_mem_cons.mpr ⟨hids, hrest⟩⟩

/-- The types that two loaders keep under one name are alike: places take the names that both
keep to each other. -/
theorem Coherent.alike {a b : Loader} (ha : a.Coherent) (hb : b.Coherent) {names : Set Text}
    (same : SameOn names a.definitions b.definitions) {name : Text} (hname : name ∈ names)
    {t u : DataType} (known : a.resolved.get? name = some t)
    (known' : b.resolved.get? name = some u) :
    u = t.relabel (transport a.resolved b.resolved) ∧
      ∀ i ∈ t.ids, i ∈ Common a.resolved b.resolved := by
  -- The parts of a kept type are kept before it, so the induction is on its place.
  induction hp : a.resolved.position name using Nat.strong_induction_on
    generalizing name t u with
  | _ place ih =>
      have kept := Mapping.mem_keys_of_get? known
      have moved := transport_position b.resolved kept
      have common : a.resolved.position name ∈ Common a.resolved b.resolved :=
        ⟨name, kept, Mapping.mem_keys_of_get? known', rfl⟩
      have alone {id : Nat} (hplace : a.resolved.position name = id) :
          ∀ i ∈ [id], i ∈ Common a.resolved b.resolved := by
        intro i hi
        rw [List.mem_singleton.mp hi, ← hplace]
        exact common
      have agree := same.same name hname
      cases ha name t known with
      | @declared _ definition d targets hplace declared read parts =>
          cases hb name u known' with
          | @declared _ _ d' targets' hplace' declared' read' parts' =>
              rw [agree, declared, Option.some.injEq] at declared'
              subst declared'
              rw [read, Except.ok.injEq] at read'
              subst read'
              have hparts : targets' = targets.map
                  (DataType.relabel (transport a.resolved b.resolved)) ∧
                  ∀ t ∈ targets, ∀ i ∈ t.ids, i ∈ Common a.resolved b.resolved := by
                refine relabel_parts parts parts' fun part t u mentioned knownPart before => ?_
                have mentions := (Definition.mentions_iff read part).mpr mentioned
                exact fun knownPart' => ih _ (hp ▸ hplace ▸ before)
                  (same.closed name hname definition declared part mentions) knownPart knownPart'
                  rfl
              constructor
              · rw [Definition.relabel_assemble, ← hparts.1, ← hplace, moved, hplace']
              · intro i hi
                rcases Definition.mem_ids_assemble hi with rfl | ⟨t, ht, hi⟩
                · exact hplace ▸ common
                · exact hparts.2 t ht i hi
          | primitive _ undeclared _ | unresolved _ undeclared _ =>
              rw [agree, declared] at undeclared
              cases undeclared
      | primitive hplace undeclared kind =>
          cases hb name u known' with
          | declared _ declared' _ _ =>
              rw [agree, undeclared] at declared'
              cases declared'
          | primitive hplace' _ kind' =>
              obtain rfl := Option.some.inj (kind.symm.trans kind')
              refine ⟨?_, alone hplace⟩
              rw [DataType.relabel, ← hplace, moved, hplace']
          | unresolved _ _ unknown =>
              rw [kind] at unknown
              cases unknown
      | unresolved hplace undeclared unknown =>
          cases hb name u known' with
          | declared _ declared' _ _ =>
              rw [agree, undeclared] at declared'
              cases declared'
          | primitive _ _ kind' =>
              rw [unknown] at kind'
              cases kind'
          | unresolved hplace' _ _ =>
              refine ⟨?_, alone hplace⟩
              rw [DataType.relabel, ← hplace, moved, hplace']

/-- Loaders with the same names on the stack whose declarations agree on some names. -/
structure Agree (names : Set Text) (a b : Loader) : Prop where
  same : SameOn names a.definitions b.definitions
  resolving : b.resolving = a.resolving
  coherent : a.Coherent
  coherent' : b.Coherent
  unkept : ∀ busy ∈ b.resolving, b.resolved.get? busy = none

theorem Agree.unkept_of_faulty {names : Set Text} {a b : Loader} (agree : Agree names a b)
    {e : LoadFailure} {name : Text} (hname : name ∈ names)
    (faulty : Faulty a.definitions e name) : b.resolved.get? name = none := by
  rw [Mapping.get?_eq_none_iff]
  intro kept
  exact faulty.not_sound (agree.same.symm.sound hname (agree.coherent'.sound_of_kept kept))

theorem Agree.start {names : Set Text} {a b : Loader} (agree : Agree names a b) {name : Text}
    {d : Definition} (opens : b.Opens name d) :
    Agree names (a.start name d) (b.start name d) := by
  refine ⟨agree.same, ?_, agree.coherent, agree.coherent', opens.start_unkept agree.unkept⟩
  rw [start_resolving, start_resolving, agree.resolving]

theorem Agree.resolves {names : Set Text} {a b a' b' : Loader} (agree : Agree names a b)
    {refs : List Json} {ts us : List DataType} (ha : a.Resolves refs ts a')
    (hb : b.Resolves refs us b') : Agree names a' b' := by
  constructor
  · rw [ha.frame.1, hb.frame.1]
    exact agree.same
  · rw [ha.frame.2, hb.frame.2]
    exact agree.resolving
  · exact ha.coherent agree.coherent
  · exact hb.coherent agree.coherent'
  · rw [hb.frame.2]
    exact fun busy hbusy => hb.busy_unkept hbusy (agree.unkept busy hbusy)

theorem LeadsTo.head {l : Loader} {ref : Json} {refs : List Json} (h : l.LeadsTo (ref :: refs)) :
    l.LeadsTo [ref] :=
  ⟨h.declared, fun busy hbusy name hname =>
    h.path busy hbusy name (List.mem_singleton.mp hname ▸ List.mem_cons_self ..)⟩

theorem Agree.resolves_head {names : Set Text} {a a' b : Loader} (agree : Agree names a b)
    {ref : Json} {t : DataType} (head : a.Resolves [ref] [t] a')
    (within : ∀ name, ref = .str name → name ∈ names) (leads : b.LeadsTo [ref]) {depth : Nat}
    (ready : b.Ready depth) : ∃ us b', b.Resolves [ref] us b' := by
  have yields := yields_resolveEach ready [ref]
  rcases h : resolveEach (resolveWithin depth) b [ref] with ⟨e | us, b'⟩
  · rw [h] at yields
    cases head.keeps with
    | cons kept _ =>
        obtain ⟨name, rfl, known, -⟩ := kept
        have faulty := Fails.faulty_name yields leads
        have sound := (head.coherent agree.coherent).sound_of_kept (Mapping.mem_keys_of_get? known)
        rw [head.frame.1] at sound
        exact absurd (agree.same.sound (within _ rfl) sound) faulty.not_sound
  · rw [h] at yields
    exact ⟨us, b', yields⟩

/-- A loader fails as another one that agrees with it, however much either of them keeps. -/
theorem Fails.agree {a a' : Loader} {refs : List Json} {e : LoadFailure} (h : a.Fails refs e a')
    {names : Set Text} {b : Loader} (agree : Agree names a b)
    (within : ∀ name, .str name ∈ refs → name ∈ names) (leads : a.LeadsTo refs)
    (leads' : b.LeadsTo refs) {depth : Nat} (ready : b.Ready depth) :
    ∃ b', b.Fails refs e b' := by
  -- What is faulty for one loader is not kept by the other, so both open the same names on the way.
  induction h generalizing b depth with
  | @refused a ref refs e head =>
      refine ⟨b, .refused ?_⟩
      cases head with
      | notText compound => exact .notText compound
      | @circular name _ busy =>
          have chain : b.chainTo name = a.chainTo name := by
            rw [chainTo, chainTo, agree.resolving]
          rw [← agree.resolving] at busy
          exact chain ▸ .circular (agree.unkept name busy) busy
      | @malformed name definition _ fresh declared fault =>
          have hname := within name (List.mem_cons_self ..)
          have faulty := (Fails.refused (.malformed fresh declared fault)).faulty_name leads.head
          refine .malformed ⟨agree.unkept_of_faulty hname faulty, ?_⟩
            ((agree.same.same name hname).trans declared) fault
          rw [agree.resolving]
          exact fresh.idle
  | @inside a a₁ name d refs e opens parts ih =>
      have hname := within name (List.mem_cons_self ..)
      obtain ⟨definition, declared, read⟩ := opens.declared
      have faulty := (Fails.inside opens parts).faulty_name leads.head
      have opens' : b.Opens name d := by
        refine ⟨⟨agree.unkept_of_faulty hname faulty, ?_⟩, definition,
          (agree.same.same name hname).trans declared, read⟩
        rw [agree.resolving]
        exact opens.fresh.idle
      obtain ⟨k, rfl⟩ := ready.pos
      obtain ⟨b', fails⟩ := ih (agree.start opens')
        (fun part hpart => agree.same.closed name hname definition declared part
          ((Definition.mentions_iff read part).mpr hpart))
        (leads.start opens) (leads'.start opens') (ready.start opens')
      exact ⟨_, .inside opens' fails⟩
  | @later a a₁ a₂ ref t refs e head rest ih =>
      obtain ⟨us, b₁, head'⟩ := agree.resolves_head head
        (fun name same => within name (same ▸ List.mem_cons_self ..)) leads'.head ready
      obtain ⟨b', fails⟩ := ih (agree.resolves head head')
        (fun name hname => within name (List.mem_cons_of_mem _ hname)) (leads.tail head.frame)
        (leads'.tail head'.frame) (ready.congr head'.frame)
      obtain ⟨u, rfl⟩ := List.length_eq_one_iff.mp head'.keeps.length_eq.symm
      exact ⟨b', .later head' fails⟩

section Idle

variable {names : Set Text} {a b : Loader}

/-- Between calls nothing is being built. -/
structure Settled (l : Loader) : Prop where
  idle : l.resolving = []
  coherent : l.Coherent

theorem settled_ofDefinitions (definitions : Mapping Json) : (ofDefinitions definitions).Settled :=
  ⟨rfl, coherent_ofDefinitions definitions⟩

theorem Settled.agree (ha : a.Settled) (hb : b.Settled)
    (same : SameOn names a.definitions b.definitions) : Agree names a b := by
  refine ⟨same, hb.idle.trans ha.idle.symm, ha.coherent, hb.coherent, ?_⟩
  rw [hb.idle]
  exact fun busy hbusy => absurd hbusy List.not_mem_nil

theorem Settled.fails (ha : a.Settled) (hb : b.Settled)
    (same : SameOn names a.definitions b.definitions) {refs : List Json}
    (within : ∀ name, .str name ∈ refs → name ∈ names) {e : LoadFailure} {a' : Loader}
    (fails : a.Fails refs e a') : ∃ b', b.Fails refs e b' :=
  fails.agree (ha.agree hb same) within (leadsTo_of_idle ha.idle refs)
    (leadsTo_of_idle hb.idle refs) (ready_of_idle hb.idle (Nat.le_refl _))

theorem Settled.resolves_alike (ha : a.Settled) (hb : b.Settled)
    (same : SameOn names a.definitions b.definitions) {refs : List Json}
    (within : ∀ name, .str name ∈ refs → name ∈ names) {ts us : List DataType} {a' b' : Loader}
    (resolves : a.Resolves refs ts a') (resolves' : b.Resolves refs us b') :
    DataType.Alike ts us := by
  have agree := (ha.agree hb same).resolves resolves resolves'
  have parts := relabel_parts resolves.keeps resolves'.keeps
    fun name t u mentioned known _ known' =>
      agree.coherent.alike agree.coherent' agree.same (within name mentioned) known known'
  refine ⟨transport a'.resolved b'.resolved, ?_, parts.1⟩
  refine (transport_injOn a'.resolved b'.resolved).mono fun i hi => ?_
  change i ∈ DataType.idsOfEach ts at hi
  rw [DataType.idsOfEach_eq, List.mem_flatMap] at hi
  obtain ⟨t, ht, hi⟩ := hi
  exact parts.2 t ht i hi

/-- A reference ends alike on loaders that declare alike what it reaches. -/
theorem Settled.resolve_sameOutcome (ha : a.Settled) (hb : b.Settled)
    (same : SameOn names a.definitions b.definitions) {ref : Json}
    (within : ∀ name, ref = .str name → name ∈ names) :
    SameOutcome (fun t u => DataType.Alike [t] [u]) (a.resolve ref).1 (b.resolve ref).1 := by
  have within : ∀ name, .str name ∈ [ref] → name ∈ names :=
    fun name hname => within name (List.mem_singleton.mp hname).symm
  rcases hresolve : a.resolve ref with ⟨e | t, a'⟩
  · obtain ⟨b', fails⟩ := ha.fails hb same within ((resolve_eq_error_iff ha.idle).mp hresolve)
    rw [(resolve_eq_error_iff hb.idle).mpr fails]
    exact .error e
  · rcases hresolve' : b.resolve ref with ⟨e | u, b'⟩
    · have fails := (resolve_eq_error_iff hb.idle).mp hresolve'
      obtain ⟨a'', fails⟩ := hb.fails ha same.symm within fails
      rw [(resolve_eq_error_iff ha.idle).mpr fails] at hresolve
      cases hresolve
    · exact .ok (ha.resolves_alike hb same within ((resolve_eq_ok_iff ha.idle).mp hresolve)
        ((resolve_eq_ok_iff hb.idle).mp hresolve'))

/-- Loaded types under the same names, alike as one graph. -/
def SameTypes (types types' : Mapping DataType) : Prop :=
  types.keys = types'.keys ∧ DataType.Alike types.values types'.values

theorem Settled.load_sameOutcome (ha : a.Settled) (hb : b.Settled)
    (same : b.definitions = a.definitions) :
    SameOutcome SameTypes a.load.1 b.load.1 := by
  have sameOn : SameOn Set.univ a.definitions b.definitions := same ▸ .refl _
  have refs : b.declaredRefs = a.declaredRefs := by rw [declaredRefs, declaredRefs, same]
  have within : ∀ name, .str name ∈ a.declaredRefs → name ∈ Set.univ := fun _ _ => Set.mem_univ _
  rcases hload : a.load with ⟨e | types, a'⟩
  · have fails := (load_eq_error_iff ha.idle).mp hload
    obtain ⟨b', fails⟩ := ha.fails hb sameOn within fails
    rw [(load_eq_error_iff hb.idle).mpr (refs ▸ fails)]
    exact .error e
  · obtain ⟨ts, a₁, resolves, rfl, -⟩ := (load_eq_ok_iff ha.idle).mp hload
    rcases hload' : b.load with ⟨e | types', b'⟩
    · have fails := (load_eq_error_iff hb.idle).mp hload'
      rw [refs] at fails
      obtain ⟨a'', fails⟩ := hb.fails ha sameOn.symm within fails
      rw [(load_eq_error_iff ha.idle).mpr fails] at hload
      cases hload
    · obtain ⟨us, b₁, resolves', rfl, -⟩ := (load_eq_ok_iff hb.idle).mp hload'
      refine .ok ⟨?_, ?_⟩
      · rw [keys_of_resolves resolves, keys_of_resolves resolves', same]
      · rw [values_of_resolves resolves, values_of_resolves resolves']
        exact ha.resolves_alike hb sameOn within resolves (refs ▸ resolves')

end Idle

end Loader
end TypeGraph
