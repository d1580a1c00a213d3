import Mathlib.Logic.Relation
import TypeGraph.Proofs.Loader.Cache
import TypeGraph.Proofs.Loader.Faults

/-!
When loading succeeds. A name resolves exactly if all declared names that can be reached from it
are well-formed and none of them lies on a cycle, and everything loads exactly if this holds of
all declared names. Calls end on every document, cyclic ones included.
-/

namespace TypeGraph

namespace Loader

/-- A declared name's definition mentions a name, declared or not. -/
def Refers (definitions : Mapping Json) (name mentioned : Text) : Prop :=
  ∃ definition, definitions.get? name = some definition ∧ Definition.Mentions definition mentioned

/-- One declared name's definition mentions another declared name. -/
def Edge (definitions : Mapping Json) (name mentioned : Text) : Prop :=
  mentioned ∈ definitions.keys ∧
    ∃ definition, definitions.get? name = some definition ∧
      Definition.Mentions definition mentioned

def Reaches (definitions : Mapping Json) : Text → Text → Prop :=
  Relation.ReflTransGen (Edge definitions)

/-- A path of at least one edge from a name to itself. -/
def OnCycle (definitions : Mapping Json) (name : Text) : Prop :=
  Relation.TransGen (Edge definitions) name name

theorem Refers.declared {definitions : Mapping Json} {name mentioned : Text}
    (refers : Refers definitions name mentioned) : name ∈ definitions.keys := by
  obtain ⟨_, declared, -⟩ := refers
  exact Mapping.mem_keys_of_get? declared

/-- Every declared name that a name reaches has a well-formed definition. -/
def WellFormedFrom (definitions : Mapping Json) (name : Text) : Prop :=
  ∀ reached definition, Reaches definitions name reached →
    definitions.get? reached = some definition → Definition.WellFormed definition

def AcyclicFrom (definitions : Mapping Json) (name : Text) : Prop :=
  ∀ reached, Reaches definitions name reached → ¬ OnCycle definitions reached

/-- The parts of a kept type that its definition mentions are kept before it. -/
theorem Coherent.kept_of_refers {l : Loader} (coherent : l.Coherent) {name mentioned : Text}
    (kept : name ∈ l.resolved.keys) (refers : Refers l.definitions name mentioned) :
    mentioned ∈ l.resolved.keys ∧ l.resolved.position mentioned < l.resolved.position name := by
  obtain ⟨definition, hdefinition, mentions⟩ := refers
  obtain ⟨t, known⟩ := Mapping.exists_get?_of_mem_keys kept
  cases coherent name t known with
  | declared place declared read parts =>
      cases hdefinition.symm.trans declared
      have part := (Definition.mentions_iff read mentioned).mp mentions
      rw [place]
      exact mem_keys_of_keptBefore parts part
  | primitive _ undeclared _ | unresolved _ undeclared _ =>
      rw [undeclared] at hdefinition
      cases hdefinition

theorem Coherent.wellFormed {l : Loader} (coherent : l.Coherent) {name : Text}
    {definition : Json} (kept : name ∈ l.resolved.keys)
    (declared : l.definitions.get? name = some definition) :
    Definition.WellFormed definition := by
  obtain ⟨t, known⟩ := Mapping.exists_get?_of_mem_keys kept
  cases coherent name t known with
  | @declared _ _ d _ _ declared' read parts =>
      cases declared.symm.trans declared'
      refine (Definition.wellFormed_iff name definition).mpr ⟨d, read, fun ref hmem => ?_⟩
      obtain ⟨i, hi, rfl⟩ := List.getElem_of_mem hmem
      obtain ⟨part, same, -⟩ := parts.get hi (parts.length_eq ▸ hi)
      exact ⟨part, same⟩
  | primitive _ undeclared _ | unresolved _ undeclared _ =>
      rw [undeclared] at declared
      cases declared

theorem Coherent.kept_of_reaches {l : Loader} (coherent : l.Coherent) {name reached : Text}
    (kept : name ∈ l.resolved.keys) (reaches : Reaches l.definitions name reached) :
    reached ∈ l.resolved.keys := by
  induction reaches with
  | refl => exact kept
  | tail _ edge ih => exact (coherent.kept_of_refers ih edge.2).1

/-- Along edges the place in the cache goes down, so no kept name is on a cycle. -/
theorem Coherent.not_onCycle {l : Loader} (coherent : l.Coherent) {name : Text}
    (kept : name ∈ l.resolved.keys) : ¬ OnCycle l.definitions name := by
  have descends {reached : Text} (path : Relation.TransGen (Edge l.definitions) name reached) :
      reached ∈ l.resolved.keys ∧ l.resolved.position reached < l.resolved.position name := by
    induction path with
    | single edge => exact coherent.kept_of_refers kept edge.2
    | tail _ edge ih =>
        obtain ⟨keptLast, before⟩ := coherent.kept_of_refers ih.1 edge.2
        exact ⟨keptLast, Nat.lt_trans before ih.2⟩
  intro cycle
  exact Nat.lt_irrefl _ (descends cycle).2

theorem Coherent.sound_of_kept {l : Loader} (coherent : l.Coherent) {name : Text}
    (kept : name ∈ l.resolved.keys) :
    WellFormedFrom l.definitions name ∧ AcyclicFrom l.definitions name :=
  ⟨fun _ _ reaches declared => coherent.wellFormed (coherent.kept_of_reaches kept reaches) declared,
    fun _ reaches => coherent.not_onCycle (coherent.kept_of_reaches kept reaches)⟩

/-- Everything on the stack is declared and leads to every declared name that is resolved next. -/
structure LeadsTo (l : Loader) (refs : List Json) : Prop where
  declared : l.resolving ⊆ l.definitions.keys
  path : ∀ busy ∈ l.resolving, ∀ name, .str name ∈ refs → name ∈ l.definitions.keys →
    Relation.TransGen (Edge l.definitions) busy name

theorem LeadsTo.tail {l l' : Loader} {ref : Json} {refs : List Json}
    (h : l.LeadsTo (ref :: refs))
    (frame : l'.definitions = l.definitions ∧ l'.resolving = l.resolving) : l'.LeadsTo refs := by
  constructor
  · rw [frame.1, frame.2]
    exact h.declared
  · rw [frame.1, frame.2]
    exact fun busy hbusy name hname => h.path busy hbusy name (List.mem_cons_of_mem ref hname)

theorem Opens.refers {l : Loader} {name part : Text} {d : Definition} (opens : l.Opens name d)
    (mentioned : .str part ∈ d.references) : Refers l.definitions name part := by
  obtain ⟨definition, known, read⟩ := opens.declared
  exact ⟨definition, known, (Definition.mentions_iff read part).mpr mentioned⟩

theorem Opens.edge {l : Loader} {name part : Text} {d : Definition} (opens : l.Opens name d)
    (mentioned : .str part ∈ d.references) (declared : part ∈ l.definitions.keys) :
    Edge l.definitions name part :=
  ⟨declared, opens.refers mentioned⟩

theorem LeadsTo.start {l : Loader} {name : Text} {d : Definition} {refs : List Json}
    (h : l.LeadsTo (.str name :: refs)) (opens : l.Opens name d) :
    (l.start name d).LeadsTo d.references := by
  refine ⟨opens.start_subset h.declared, ?_⟩
  intro busy hbusy part mentioned declared
  have edge := opens.edge mentioned declared
  rcases List.mem_append.mp hbusy with hbusy | hbusy
  · exact (h.path busy hbusy name (List.mem_cons_self ..) opens.mem_keys).tail edge
  · rw [List.mem_singleton.mp hbusy]
    exact .single edge

/-- What makes a declared name fail: it reaches an ill-formed definition, or a cycle, and then the
failure is a circular reference. -/
def Faulty (definitions : Mapping Json) (e : LoadFailure) (name : Text) : Prop :=
  name ∈ definitions.keys ∧ (¬ WellFormedFrom definitions name ∨
    ((∃ chain, e = .graph (.circular chain)) ∧ ¬ AcyclicFrom definitions name))

theorem Faulty.of_edge {definitions : Mapping Json} {e : LoadFailure} {name part : Text}
    (h : Faulty definitions e part) (declared : name ∈ definitions.keys)
    (edge : Edge definitions name part) : Faulty definitions e name := by
  refine ⟨declared, ?_⟩
  rcases h.2 with illFormed | ⟨circular, cyclic⟩
  · refine .inl fun wellFormed => illFormed ?_
    exact fun reached definition reaches => wellFormed reached definition (.head edge reaches)
  · refine .inr ⟨circular, fun acyclic => cyclic ?_⟩
    exact fun reached reaches => acyclic reached (.head edge reaches)

theorem faulty_of_illFormed {definitions : Mapping Json} {e : LoadFailure} {name : Text}
    {definition : Json} (declared : definitions.get? name = some definition)
    (illFormed : ¬ Definition.WellFormed definition) : Faulty definitions e name :=
  ⟨Mapping.mem_keys_of_get? declared,
    .inl fun wellFormed => illFormed (wellFormed name definition .refl declared)⟩

/-- References that are text fail only on account of a faulty name among them. -/
theorem Fails.faulty {l l' : Loader} {refs : List Json} {e : LoadFailure}
    (h : l.Fails refs e l') (text : ∀ ref ∈ refs, Definition.IsText ref)
    (leads : l.LeadsTo refs) : ∃ name, .str name ∈ refs ∧ Faulty l.definitions e name := by
  induction h with
  | @refused l ref refs e head =>
      cases head with
      | notText compound =>
          obtain ⟨name, rfl⟩ := text ref (List.mem_cons_self ..)
          cases compound
      | @circular name _ busy =>
          have declared := leads.declared busy
          have cycle := leads.path name busy name (List.mem_cons_self ..) declared
          exact ⟨name, List.mem_cons_self .., declared,
            .inr ⟨⟨_, rfl⟩, fun acyclic => acyclic name .refl cycle⟩⟩
      | @malformed name definition _ _ declared fault =>
          refine ⟨name, List.mem_cons_self .., faulty_of_illFormed declared fun wellFormed => ?_⟩
          obtain ⟨d, read, -⟩ := (Definition.wellFormed_iff name definition).mp wellFormed
          rw [read] at fault
          cases fault
  | @inside l l₁ name d refs e opens parts ih =>
      refine ⟨name, List.mem_cons_self .., ?_⟩
      by_cases textParts : ∀ ref ∈ d.references, Definition.IsText ref
      · obtain ⟨part, mentioned, faulty⟩ := ih textParts (leads.start opens)
        have faulty : Faulty l.definitions e part := faulty
        exact faulty.of_edge opens.mem_keys (opens.edge mentioned faulty.1)
      · obtain ⟨definition, declared, read⟩ := opens.declared
        refine faulty_of_illFormed declared fun wellFormed => textParts ?_
        obtain ⟨d', read', textParts'⟩ := (Definition.wellFormed_iff name definition).mp wellFormed
        rw [read] at read'
        cases read'
        exact textParts'
  | later head rest ih =>
      obtain ⟨name, hmem, faulty⟩ :=
        ih (fun ref hmem => text ref (List.mem_cons_of_mem _ hmem)) (leads.tail head.frame)
      exact ⟨name, List.mem_cons_of_mem _ hmem, head.frame.1 ▸ faulty⟩

theorem Fails.faulty_name {l l' : Loader} {name : Text} {e : LoadFailure}
    (h : l.Fails [.str name] e l') (leads : l.LeadsTo [.str name]) :
    Faulty l.definitions e name := by
  have text : ∀ ref ∈ [Json.str name], Definition.IsText ref :=
    fun ref href => ⟨name, List.mem_singleton.mp href⟩
  obtain ⟨other, hmem, faulty⟩ := h.faulty text leads
  rw [List.mem_singleton, Json.str.injEq] at hmem
  exact hmem ▸ faulty

theorem Fails.ne_exhausted {l l' : Loader} {refs : List Json} {e : LoadFailure}
    (h : l.Fails refs e l') : e ≠ .exhausted := by
  induction h with
  | refused head =>
      cases head with
      | notText _ => exact fun h => nomatch h
      | circular _ _ => exact fun h => nomatch h
      | malformed _ _ fault =>
          rintro rfl
          exact Definition.ofJson_ne_overall .exhausted fault
  | inside _ _ ih | later _ _ ih => exact ih

theorem leadsTo_of_idle {l : Loader} (idle : l.resolving = []) (refs : List Json) :
    l.LeadsTo refs := by
  constructor
  · rw [idle]
    exact List.nil_subset _
  · rw [idle]
    exact fun busy hbusy => absurd hbusy List.not_mem_nil

theorem faulty_of_resolve_error {l : Loader} (idle : l.resolving = []) {ref : Text}
    {e : LoadFailure} (h : (l.resolve (.str ref)).1 = .error e) : Faulty l.definitions e ref := by
  have fails : l.Fails [.str ref] e (l.resolve (.str ref)).2 :=
    (resolve_eq_error_iff idle).mp (Prod.ext h rfl)
  exact fails.faulty_name (leadsTo_of_idle idle _)

/-- A name resolves exactly if it reaches neither an ill-formed definition nor a cycle. -/
theorem resolve_ok_iff_sound {l : Loader} (idle : l.resolving = []) (coherent : l.Coherent)
    (ref : Text) :
    (∃ t, (l.resolve (.str ref)).1 = .ok t) ↔
      WellFormedFrom l.definitions ref ∧ AcyclicFrom l.definitions ref := by
  constructor
  · rintro ⟨t, h⟩
    have resolves : l.Resolves [.str ref] [t] (l.resolve (.str ref)).2 :=
      (resolve_eq_ok_iff idle).mp (Prod.ext h rfl)
    rw [← resolves.frame.1]
    exact (resolves.coherent coherent).sound_of_kept
      (resolves.mem_keys (List.mem_singleton.mpr rfl))
  · rintro ⟨wellFormed, acyclic⟩
    rcases h : (l.resolve (.str ref)).1 with e | t
    · rcases (faulty_of_resolve_error idle h).2 with illFormed | ⟨-, cyclic⟩
      · exact absurd wellFormed illFormed
      · exact absurd acyclic cyclic
    · exact ⟨t, rfl⟩

theorem OnCycle.declared {definitions : Mapping Json} {name : Text}
    (cycle : OnCycle definitions name) : name ∈ definitions.keys := by
  cases cycle with
  | single edge | tail _ edge => exact edge.1

/-- Loading follows every declared name, so no definition at all may be ill-formed or on a cycle. -/
theorem load_ok_iff_sound {l : Loader} (idle : l.resolving = []) (coherent : l.Coherent) :
    (∃ types, l.load.1 = .ok types) ↔
      (∀ name definition, l.definitions.get? name = some definition →
        Definition.WellFormed definition) ∧ ∀ name, ¬ OnCycle l.definitions name := by
  constructor
  · rintro ⟨types, h⟩
    have loaded : l.load = (.ok types, l.load.2) := Prod.ext h rfl
    obtain ⟨ts, l₁, resolves, -, -⟩ := (load_eq_ok_iff idle).mp loaded
    have sound {name : Text} (declared : name ∈ l.definitions.keys) :
        WellFormedFrom l.definitions name ∧ AcyclicFrom l.definitions name := by
      rw [← resolves.frame.1]
      have kept := resolves.mem_keys (List.mem_map_of_mem declared)
      exact (resolves.coherent coherent).sound_of_kept kept
    constructor
    · intro name definition known
      exact (sound (Mapping.mem_keys_of_get? known)).1 name definition .refl known
    · intro name cycle
      exact (sound cycle.declared).2 name .refl cycle
  · rintro ⟨wellFormed, acyclic⟩
    rcases h : l.load.1 with e | types
    · have fails : l.Fails l.declaredRefs e l.load.2 :=
        (load_eq_error_iff idle).mp (Prod.ext h rfl)
      have text : ∀ ref ∈ l.declaredRefs, Definition.IsText ref := by
        intro ref href
        obtain ⟨name, -, rfl⟩ := List.mem_map.mp href
        exact ⟨name, rfl⟩
      obtain ⟨name, -, -, illFormed | ⟨-, cyclic⟩⟩ := fails.faulty text (leadsTo_of_idle idle _)
      · exact absurd (fun reached definition _ => wellFormed reached definition) illFormed
      · exact absurd (fun reached _ => acyclic reached) cyclic
    · exact ⟨types, rfl⟩

/-- Resolving a name and loading on a fresh loader. Both always end, since more room for calls
changes nothing. They succeed exactly if what they follow is well-formed and has no cycle, and if
a cycle is the only fault, it is what is reported. -/
theorem fresh_succeeds_iff_sound (definitions : Mapping Json) (ref : Text) :
    (∀ depth, (ofDefinitions definitions).depthBound ≤ depth →
      resolveWithin depth (ofDefinitions definitions) (.str ref) =
        (ofDefinitions definitions).resolve (.str ref)) ∧
    ((ofDefinitions definitions).resolve (.str ref)).1 ≠ .error .exhausted ∧
    ((∃ t, ((ofDefinitions definitions).resolve (.str ref)).1 = .ok t) ↔
      WellFormedFrom definitions ref ∧ AcyclicFrom definitions ref) ∧
    (WellFormedFrom definitions ref → ¬ AcyclicFrom definitions ref →
      ∃ chain, ((ofDefinitions definitions).resolve (.str ref)).1 =
        .error (.graph (.circular chain))) ∧
    (ofDefinitions definitions).load.1 ≠ .error .exhausted ∧
    ((∃ types, (ofDefinitions definitions).load.1 = .ok types) ↔
      (∀ name definition, definitions.get? name = some definition →
        Definition.WellFormed definition) ∧ ∀ name, ¬ OnCycle definitions name) := by
  have idle : (ofDefinitions definitions).resolving = [] := rfl
  have coherent := coherent_ofDefinitions definitions
  have resolves := resolve_ok_iff_sound idle coherent ref
  refine ⟨?_, ?_, resolves, ?_, ?_, load_ok_iff_sound idle coherent⟩
  · intro depth room
    exact resolveWithin_eq_of_ready (ready_of_idle idle room)
      (ready_of_idle idle (Nat.le_refl _)) _
  · intro h
    exact ((resolve_eq_error_iff idle).mp (Prod.ext h rfl)).ne_exhausted rfl
  · intro wellFormed cyclic
    rcases h : ((ofDefinitions definitions).resolve (.str ref)).1 with e | t
    · rcases (faulty_of_resolve_error idle h).2 with illFormed | ⟨⟨chain, rfl⟩, -⟩
      · exact absurd wellFormed illFormed
      · exact ⟨chain, rfl⟩
    · exact absurd (resolves.mp ⟨t, h⟩).2 cyclic
  · intro h
    exact ((load_eq_error_iff idle).mp (Prod.ext h rfl)).ne_exhausted rfl

end Loader
end TypeGraph
