import TypeGraph.Proofs.Loader.Cycles
import TypeGraph.Proofs.Loader.Steps

/-!
How calls nest. The names on the stack are those of the calls that follow a definition, and at every
moment they are distinct, declared and not yet kept, each mentioned by the definition of the one
before it. So no more calls are in progress than there are declared names, and one more.
-/

namespace TypeGraph.Loader

/-- The names of the definitions that are followed, outermost first. -/
def Callers.names : Callers → List Text
  | .outside => []
  | .following name _ _ _ outer => outer.names ++ [name]

/-- The references at hand are of the definition that the innermost call follows, and so on
outwards; who asks from outside may ask for anything. -/
inductive Callers.Follow (definitions : Mapping Json) : Callers → List Json → Prop
  | outside {refs : List Json} : Follow definitions .outside refs
  | following {name : Text} {definition : Json} {d : Definition} {done : List DataType}
      {rest refs : List Json} {outer : Callers}
      (declared : definitions.get? name = some definition)
      (read : Definition.ofJson name definition = .ok d)
      (mentioned : ∀ ref ∈ refs, ref ∈ d.references)
      (around : Follow definitions outer rest) :
      Follow definitions (.following name d done rest outer) refs

namespace Moment

/-- The references at hand, the one that is being resolved included. -/
def pending (m : Moment) : List Json :=
  match m.phase with
  | .asked ref => ref :: m.rest
  | _ => m.rest

/-- What the stack holds: a name is put on it before its definition is read. -/
def stack (m : Moment) : List Text :=
  match m.phase with
  | .reading name _ => m.callers.names ++ [name]
  | _ => m.callers.names

/-- How many calls are in progress: those that wait, and the one at hand if there is one. -/
def depth (m : Moment) : Nat :=
  match m.phase with
  | .goingOn => m.callers.names.length
  | _ => m.callers.names.length + 1

/-- What a moment knows of the name at hand. -/
def Prepared (definitions : Mapping Json) (m : Moment) : Prop :=
  match m.phase with
  | .reading name definition => definitions.get? name = some definition
  | .keeping name _ => name ∉ m.loader.resolving
  | _ => True

/-- What holds at every moment of a call. -/
structure Orderly (definitions : Mapping Json) (m : Moment) : Prop where
  unchanged : m.loader.definitions = definitions
  stack : m.loader.resolving = m.stack
  linked : m.loader.Linked []
  follow : m.callers.Follow definitions m.pending
  prepared : m.Prepared definitions

end Moment

section Linked

variable {l : Loader} {name : Text} {refs : List Json}

theorem Linked.enter (h : l.Linked refs) (fresh : l.Fresh name)
    (declared : name ∈ l.definitions.keys)
    (edge : ∀ owner ∈ l.resolving.getLast?, Edge l.definitions owner name) :
    (l.enter name).Linked [] :=
  ⟨fresh.nodup_enter h.distinct, enter_subset declared h.declared, fresh.enter_unkept h.unkept,
    isChain_concat h.path edge, nofun⟩

theorem Linked.leave (h : l.Linked refs) : l.leave.Linked [] := by
  have fewer : l.resolving.dropLast <+: l.resolving := List.dropLast_prefix _
  exact ⟨h.distinct.sublist fewer.sublist, fun _ hbusy => h.declared (fewer.subset hbusy),
    fun busy hbusy => h.unkept busy (fewer.subset hbusy), h.path.prefix fewer, nofun⟩

theorem Linked.keep (h : l.Linked refs) (idle : name ∉ l.resolving) (t : DataType) :
    (l.keep name t).Linked [] := by
  refine ⟨h.distinct, h.declared, fun busy hbusy => ?_, h.path, nofun⟩
  have other : busy ≠ name := fun same => idle (same ▸ hbusy)
  rw [Loader.keep, Mapping.get?_set, if_neg other]
  exact h.unkept busy hbusy

theorem Linked.report (h : l.Linked []) (events : List Log.Event) : (l.report events).Linked [] :=
  ⟨h.distinct, h.declared, h.unkept, h.path, nofun⟩

theorem Linked.ready (h : l.Linked refs) : l.Ready (l.depthBound - l.resolving.length) := by
  refine ⟨h.distinct, h.declared, ?_⟩
  have := length_resolving_le h.distinct h.declared
  rw [depthBound]
  omega

end Linked

section Follow

variable {definitions : Mapping Json} {callers : Callers} {refs : List Json}

theorem Callers.Follow.subset {fewer : List Json} (h : callers.Follow definitions refs)
    (subset : fewer ⊆ refs) : callers.Follow definitions fewer := by
  cases h with
  | outside => exact .outside
  | following declared read mentioned around =>
      exact .following declared read (fun ref href => mentioned ref (subset href)) around

/-- The definition that the innermost call follows mentions the names at hand. -/
theorem Callers.Follow.edge (h : callers.Follow definitions refs) {name : Text}
    (mentioned : .str name ∈ refs) (declared : name ∈ definitions.keys) :
    ∀ owner ∈ callers.names.getLast?, Edge definitions owner name := by
  intro owner howner
  cases h with
  | outside => cases howner
  | following declared' read mentioned' _ =>
      rw [Callers.names, List.getLast?_concat] at howner
      cases howner
      exact ⟨declared, _, declared',
        (Definition.mentions_iff read name).mpr (mentioned' _ mentioned)⟩

end Follow

namespace Moment

section Orderly

variable {definitions : Mapping Json} {l : Loader} {callers : Callers} {done : List DataType}
  {rest : List Json} {name : Text} {m' : Moment}

/-- Taking the innermost name off the stack leaves the names of the calls that wait. -/
theorem leave_eq (h : l.Linked []) (stack : l.resolving = callers.names ++ [name]) :
    l.leave.resolving = callers.names ∧ name ∉ l.leave.resolving := by
  have popped : l.leave.resolving = callers.names := by
    rw [Loader.leave, stack, List.dropLast_concat]
  have distinct := stack ▸ h.distinct
  rw [popped]
  exact ⟨rfl, fun back => (List.nodup_append.mp distinct).2.2 name back name (by simp) rfl⟩

theorem Orderly.goOn (h : Orderly definitions ⟨l, callers, done, rest, .goingOn⟩)
    (next : Moment.goOn ⟨l, callers, done, rest, .goingOn⟩ = some m') : m'.Orderly definitions := by
  obtain ⟨same, stack, linked, follow, -⟩ := h
  cases rest with
  | cons ref rest =>
      cases next
      exact ⟨same, stack, linked, follow, trivial⟩
  | nil =>
      cases follow with
      | outside => cases next
      | following declared read mentioned around =>
          cases next
          obtain ⟨popped, idle⟩ := leave_eq linked stack
          exact ⟨same, popped, (linked.report _).leave, around, idle⟩

theorem Orderly.ask (h : Orderly definitions ⟨l, callers, done, rest, .asked (.str name)⟩) :
    (Moment.ask ⟨l, callers, done, rest, .asked (.str name)⟩ name).Orderly definitions := by
  obtain ⟨same, stack, linked, follow, -⟩ := h
  have after : callers.Follow definitions rest := follow.subset (List.subset_cons_self _ _)
  unfold Moment.ask
  dsimp only
  split
  · exact ⟨same, stack, linked, after, trivial⟩
  · rename_i unkept
    split
    · exact ⟨same, stack, linked, after, trivial⟩
    · rename_i idle
      split
      · rename_i definition declared
        have edge := follow.edge List.mem_cons_self (same ▸ Mapping.mem_keys_of_get? declared)
        have stack : l.resolving = callers.names := stack
        refine ⟨same, congrArg (· ++ [name]) stack, ?_, after, same ▸ declared⟩
        exact linked.enter ⟨unkept, idle⟩ (Mapping.mem_keys_of_get? declared)
          (by rw [stack, same]; exact edge)
      · split
        · exact ⟨same, stack, linked, after, idle⟩
        · exact ⟨same, stack, linked.report _, after, idle⟩

theorem Orderly.read {definition : Json}
    (h : Orderly definitions ⟨l, callers, done, rest, .reading name definition⟩) :
    (Moment.read ⟨l, callers, done, rest, .reading name definition⟩ name definition).Orderly
      definitions := by
  obtain ⟨same, stack, linked, follow, declared⟩ := h
  unfold Moment.read
  split
  · exact ⟨same, (leave_eq linked stack).1, linked.leave, follow, trivial⟩
  · rename_i d read
    exact ⟨same, stack, linked.report _, .following declared read (fun _ mem => mem) follow,
      trivial⟩

theorem Orderly.unwind {e : LoadFailure}
    (h : Orderly definitions ⟨l, callers, done, rest, .raising e⟩)
    (next : Moment.unwind ⟨l, callers, done, rest, .raising e⟩ e = some m') :
    m'.Orderly definitions := by
  obtain ⟨same, stack, linked, follow, -⟩ := h
  cases follow with
  | outside => cases next
  | following declared read mentioned around =>
      cases next
      exact ⟨same, (leave_eq linked stack).1, linked.leave, around, trivial⟩

/-- What holds at a moment of a call holds at the next one. -/
theorem Orderly.next {m : Moment} (h : m.Orderly definitions) (next : m.next = some m') :
    m'.Orderly definitions := by
  obtain ⟨l, callers, done, rest, phase⟩ := m
  cases phase with
  | goingOn => exact h.goOn next
  | asked ref =>
      cases ref with
      | str name =>
          cases next
          exact h.ask
      | null | bool _ | int _ | float _ | arr _ | obj _ =>
          cases next
          obtain ⟨same, stack, linked, follow, -⟩ := h
          exact ⟨same, stack, linked, follow.subset (List.subset_cons_self _ _), trivial⟩
  | reading name definition =>
      cases next
      exact h.read
  | keeping name t =>
      cases next
      obtain ⟨same, stack, linked, follow, idle⟩ := h
      exact ⟨same, stack, linked.keep idle t, follow, trivial⟩
  | returning t =>
      cases next
      obtain ⟨same, stack, linked, follow, -⟩ := h
      exact ⟨same, stack, linked, follow, trivial⟩
  | raising e => exact h.unwind next

theorem Orderly.steps {m : Moment} (h : m.Orderly definitions) (steps : m.Steps m') :
    m'.Orderly definitions := by
  induction steps with
  | refl => exact h
  | tail _ next ih => exact ih.next next

theorem orderly_first (idle : l.resolving = []) (refs : List Json) :
    (first l refs).Orderly l.definitions :=
  ⟨rfl, idle, linked_of_idle idle [], .outside, trivial⟩

theorem Orderly.depth_le {m : Moment} (h : m.Orderly definitions) :
    m.depth ≤ definitions.size + 1 := by
  have bounded := length_resolving_le h.linked.distinct h.linked.declared
  rw [h.unchanged, h.stack] at bounded
  obtain ⟨l, callers, done, rest, phase⟩ := m
  cases phase with
  | reading name definition =>
      rw [Moment.stack, List.length_append] at bounded
      exact Nat.le_trans bounded (Nat.le_succ _)
  | goingOn => exact Nat.le_trans bounded (Nat.le_succ _)
  | asked _ | keeping _ _ | returning _ | raising _ => exact Nat.succ_le_succ bounded

end Orderly

end Moment

open Moment

/-- Whatever has been done with a loader before, at every moment of a call from outside the names on
the stack are distinct, declared and not kept, and the definition of each mentions the one after it,
so that no more calls are in progress than there are declared names, and one more. A call that is
made meanwhile comes to an end, at which those that wait for it and the stack are as they were. So
every call from outside ends, with what the loader answers. -/
theorem calls_nest_orderly (definitions : Mapping Json) (operations : List Operation) :
    let l := (ofDefinitions definitions).run operations
    (∀ refs m, (first l refs).Steps m →
      m.loader.resolving.Nodup ∧
      (∀ name ∈ m.loader.resolving, name ∈ l.definitions.keys ∧ name ∉ m.loader.resolved.keys) ∧
      m.loader.resolving.IsChain (Edge l.definitions) ∧
      m.depth ≤ l.definitions.size + 1 ∧
      ∀ ref, m.phase = .asked ref →
        let answer := resolveWithin (l.depthBound - m.loader.resolving.length) m.loader ref
        m.Steps (m.ended answer) ∧ answer.2.resolving = m.loader.resolving) ∧
    (∀ ref, ∃ last, (first l [ref]).Steps last ∧ last.next = none ∧
      last.outcome? = some ((l.resolve ref).1.map fun t => [t], (l.resolve ref).2)) ∧
    ∃ last, (first l l.declaredRefs).Steps last ∧ last.next = none ∧
      ((∃ e, l.load.1 = .error e ∧ last.outcome? = some (.error e, l.load.2)) ∨
        ∃ ts l', last.outcome? = some (.ok ts, l') ∧
          l.load.1 = .ok (Mapping.ofList (l.definitions.keys.zip ts)) ∧
          l.load.2.resolved = l'.resolved ∧ l.load.2.resolving = l'.resolving) := by
  intro l
  have idle : l.resolving = [] := ((steady_ofDefinitions definitions).run operations).1.idle
  have ready := ready_of_idle idle (Nat.le_refl _)
  have ends : ∀ refs, ∃ last, (first l refs).Steps last ∧ last.next = none ∧
      last.outcome? = some (resolveEach resolve l refs) := by
    intro refs
    obtain ⟨last, steps, outcome⟩ := steps_outcome ready refs
    rw [← resolveEach_resolve_eq idle] at outcome
    exact ⟨last, steps, next_of_outcome (by rw [outcome]; rfl), outcome⟩
  refine ⟨?moments, ?resolve, ?load⟩
  case moments =>
    intro refs m steps
    have orderly := (orderly_first idle refs).steps steps
    have linked := orderly.linked
    have room := linked.ready
    rw [show m.loader.depthBound = l.depthBound by rw [depthBound, orderly.unchanged, depthBound]]
      at room
    refine ⟨linked.distinct, fun name busy => ⟨?_, ?_⟩, ?_, orderly.depth_le, fun ref asked => ?_⟩
    · exact orderly.unchanged ▸ linked.declared busy
    · exact Mapping.get?_eq_none_iff.mp (linked.unkept name busy)
    · exact orderly.unchanged ▸ linked.path
    · exact (steps_ended m room asked).symm
  case resolve =>
    intro ref
    rw [← resolveEach_singleton]
    exact ends [ref]
  case load =>
    obtain ⟨last, steps, ended, outcome⟩ := ends l.declaredRefs
    refine ⟨last, steps, ended, ?_⟩
    rcases h : resolveEach resolve l l.declaredRefs with ⟨e | ts, l'⟩
    · rw [load_of_error h, outcome, h]
      exact .inl ⟨e, rfl, rfl⟩
    · rw [load_of_ok h, outcome, h]
      exact .inr ⟨ts, l', rfl, rfl, rfl, rfl⟩

/-- A declared name and what it mentions: so many calls can be in progress. -/
example :
    let l := ofDefinitions (.ofList [("A", .obj [("properties", .obj [("b", .str "Long")])])])
    ∃ m, (first l [.str "A"]).Steps m ∧ m.depth = l.definitions.size + 1 :=
  ⟨_, (Steps.of_next rfl).trans ((Steps.of_next rfl).trans ((Steps.of_next rfl).trans
    (.of_next rfl))), rfl⟩

end TypeGraph.Loader
