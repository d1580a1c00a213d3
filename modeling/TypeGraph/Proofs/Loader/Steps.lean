import Mathlib.Logic.Relation
import TypeGraph.Proofs.Loader.Derivation

/-!
Calls in progress, one step after the other. A call that follows a definition waits until the
references of the definition are resolved, each by a call of its own, so at every moment there are
the calls that wait, innermost first, and what the one at hand is doing. Nothing bounds how many of
them there are. The steps lead to what the bounded calls answer, so every call comes to its end.
-/

namespace TypeGraph.Loader

/-- What is going on at a moment. -/
inductive Phase
  /-- The next one of the references left is to be resolved. -/
  | goingOn
  | asked (ref : Json)
  /-- The name is on the stack, its definition is not yet read. -/
  | reading (name : Text) (definition : Json)
  /-- The type is built and its name, if it was on the stack, is off it. It is not yet kept. -/
  | keeping (name : Text) (t : DataType)
  | returning (t : DataType)
  | raising (e : LoadFailure)

/-- Who waits for the references at hand: the call that follows a definition, or who asked for them
from outside. A call that follows a definition is one of several that are made for a list of
references; with it stands how far this list has come. -/
inductive Callers
  | outside
  | following (name : Text) (d : Definition) (done : List DataType) (rest : List Json)
      (outer : Callers)

structure Moment where
  loader : Loader
  callers : Callers
  /-- What the references at hand have resolved to so far. -/
  done : List DataType
  /-- The references at hand that are left. -/
  rest : List Json
  phase : Phase

namespace Moment

/-- References are asked for from outside. -/
def first (l : Loader) (refs : List Json) : Moment := ⟨l, .outside, [], refs, .goingOn⟩

/-- The next reference is taken up. When none is left, the type that they are for is built. -/
def goOn (m : Moment) : Option Moment :=
  match m.rest, m.callers with
  | ref :: rest, _ => some { m with rest := rest, phase := .asked ref }
  | [], .following name d done rest outer =>
      let t := d.assemble m.loader.nextId name m.done
      some ⟨(m.loader.report t.constructionEvents).leave, outer, done, rest, .keeping name t⟩
  | [], .outside => none

/-- A name is looked up. -/
def ask (m : Moment) (name : Text) : Moment :=
  let l := m.loader
  match l.resolved.get? name with
  | some t => { m with phase := .returning t }
  | none =>
      if name ∈ l.resolving then { m with phase := .raising (.graph (.circular (l.chainTo name))) }
      else
        match l.definitions.get? name with
        | some definition => { m with loader := l.enter name, phase := .reading name definition }
        | none =>
            match Primitive.ofName? name with
            | some kind => { m with phase := .keeping name (.primitive l.nextId .none kind) }
            | none =>
                { m with
                  loader := l.report [.unresolvedReference name l.current?]
                  phase := .keeping name (.unresolved l.nextId .none name) }

/-- The definition of a name on the stack is read, and followed if nothing is wrong with it. -/
def read (m : Moment) (name : Text) (definition : Json) : Moment :=
  match Definition.ofJson name definition with
  | .error e => { m with loader := m.loader.leave, phase := .raising e }
  | .ok d =>
      ⟨m.loader.report [d.buildEvent name], .following name d m.done m.rest m.callers, [],
        d.references, .goingOn⟩

/-- A failure passes through the innermost call that waits. -/
def unwind (m : Moment) (e : LoadFailure) : Option Moment :=
  match m.callers with
  | .following _ _ done rest outer => some ⟨m.loader.leave, outer, done, rest, .raising e⟩
  | .outside => none

/-- The next moment, unless the call from outside is over. -/
def next (m : Moment) : Option Moment :=
  match m.phase with
  | .goingOn => m.goOn
  | .asked (.str name) => some (m.ask name)
  | .asked ref => some { m with phase := .raising (.graph (.referenceNotText ref.typeName)) }
  | .reading name definition => some (m.read name definition)
  | .keeping name t => some { m with loader := m.loader.keep name t, phase := .returning t }
  | .returning t => some { m with done := m.done ++ [t], phase := .goingOn }
  | .raising e => m.unwind e

/-- What the call from outside has come to, once it is over. -/
def outcome? (m : Moment) : Option (Except LoadFailure (List DataType) × Loader) :=
  match m.callers, m.phase, m.rest with
  | .outside, .goingOn, [] => some (.ok m.done, m.loader)
  | .outside, .raising e, _ => some (.error e, m.loader)
  | _, _, _ => none

/-- The moment at which the call at hand is over, given what it has come to. -/
def ended (m : Moment) : Except LoadFailure DataType × Loader → Moment
  | (.ok t, l) => { m with loader := l, phase := .returning t }
  | (.error e, l) => { m with loader := l, phase := .raising e }

def Steps : Moment → Moment → Prop := Relation.ReflTransGen fun m m' => m.next = some m'

theorem Steps.refl (m : Moment) : m.Steps m := Relation.ReflTransGen.refl

theorem Steps.of_next {m m' : Moment} (h : m.next = some m') : m.Steps m' :=
  Relation.ReflTransGen.single h

theorem Steps.trans {m m' m'' : Moment} (h : m.Steps m') (h' : m'.Steps m'') : m.Steps m'' :=
  Relation.ReflTransGen.trans h h'

/-- A call from outside that has come to something takes no more steps. -/
theorem next_of_outcome {m : Moment} (h : m.outcome?.isSome) : m.next = none := by
  unfold outcome? at h
  split at h
  · rename_i outside phase rest
    simp only [next, goOn, outside, phase, rest]
  · rename_i outside phase
    simp only [next, unwind, outside, phase]
  · cases h

end Moment

open Moment

section Steps

variable {l l' : Loader} {callers : Callers} {done ts : List DataType} {rest refs : List Json}
  {ref : Json} {name : Text} {d : Definition} {t : DataType} {e : LoadFailure}

theorem Finds.steps (h : l.Finds name t l') :
    Steps ⟨l, callers, done, rest, .asked (.str name)⟩
      ⟨l', callers, done, rest, .returning t⟩ := by
  cases h with
  | kept known => exact .of_next (by simp only [next, ask, known])
  | @primitive kind fresh undeclared known =>
      have look : next ⟨l, callers, done, rest, .asked (.str name)⟩ =
          some ⟨l, callers, done, rest, .keeping name (.primitive l.nextId .none kind)⟩ := by
        simp only [next, ask, fresh.unkept, fresh.idle, if_false, undeclared, known]
      exact (Steps.of_next look).trans (.of_next rfl)
  | unresolved fresh undeclared unknown =>
      have look : next ⟨l, callers, done, rest, .asked (.str name)⟩ =
          some ⟨l.report [.unresolvedReference name l.current?], callers, done, rest,
            .keeping name (.unresolved l.nextId .none name)⟩ := by
        simp only [next, ask, fresh.unkept, fresh.idle, if_false, undeclared, unknown]
      exact (Steps.of_next look).trans (.of_next rfl)

theorem Refuses.steps (h : l.Refuses ref e) :
    Steps ⟨l, callers, done, rest, .asked ref⟩ ⟨l, callers, done, rest, .raising e⟩ := by
  cases h with
  | notText compound => exact .of_next (by cases ref <;> first | rfl | cases compound)
  | circular unkept busy => exact .of_next (by simp only [next, ask, unkept, busy, if_true])
  | @malformed name definition _ fresh declared fault =>
      have look : next ⟨l, callers, done, rest, .asked (.str name)⟩ =
          some ⟨l.enter name, callers, done, rest, .reading name definition⟩ := by
        simp only [next, ask, fresh.unkept, fresh.idle, if_false, declared]
      have read : next ⟨l.enter name, callers, done, rest, .reading name definition⟩ =
          some ⟨l, callers, done, rest, .raising e⟩ := by
        simp only [next, Moment.read, fault, leave_enter]
      exact (Steps.of_next look).trans (.of_next read)

theorem Opens.steps (h : l.Opens name d) :
    Steps ⟨l, callers, done, rest, .asked (.str name)⟩
      ⟨l.start name d, .following name d done rest callers, [], d.references, .goingOn⟩ := by
  obtain ⟨definition, declared, read⟩ := h.declared
  have look : next ⟨l, callers, done, rest, .asked (.str name)⟩ =
      some ⟨l.enter name, callers, done, rest, .reading name definition⟩ := by
    simp only [next, ask, h.fresh.unkept, h.fresh.idle, if_false, declared]
  have opened : next ⟨l.enter name, callers, done, rest, .reading name definition⟩ =
      some ⟨l.start name d, .following name d done rest callers, [], d.references, .goingOn⟩ := by
    simp only [next, Moment.read, read, start]
  exact (Steps.of_next look).trans (.of_next opened)

theorem finish_steps (targets : List DataType) :
    Steps ⟨l, .following name d done rest callers, targets, [], .goingOn⟩
      ⟨l.finish name (d.assemble l.nextId name targets), callers, done, rest,
        .returning (d.assemble l.nextId name targets)⟩ :=
  (Steps.of_next rfl).trans (.of_next rfl)

theorem Resolves.steps (h : l.Resolves refs ts l') :
    Steps ⟨l, callers, done, refs, .goingOn⟩ ⟨l', callers, done ++ ts, [], .goingOn⟩ := by
  induction h generalizing callers done with
  | nil =>
      rw [List.append_nil]
      exact .refl _
  | found head _ ih =>
      rw [List.append_cons]
      exact (Steps.of_next rfl).trans (head.steps.trans ((Steps.of_next rfl).trans ih))
  | built opens _ _ ihParts ihRest =>
      rw [List.append_cons]
      refine (Steps.of_next rfl).trans (opens.steps.trans (ihParts.trans ?_))
      exact (finish_steps _).trans ((Steps.of_next rfl).trans ihRest)

/-- A call that returns does so with those that wait for it as they were. -/
theorem Resolves.call_steps (h : l.Resolves [ref] [t] l') :
    Steps ⟨l, callers, done, rest, .asked ref⟩ ⟨l', callers, done, rest, .returning t⟩ := by
  cases h with
  | found head none =>
      cases none
      exact head.steps
  | built opens parts none =>
      cases none
      exact opens.steps.trans (parts.steps.trans (finish_steps _))

theorem Fails.steps (h : l.Fails refs e l') :
    ∃ done' rest', Steps ⟨l, callers, done, refs, .goingOn⟩
      ⟨l', callers, done', rest', .raising e⟩ := by
  induction h generalizing callers done with
  | refused head => exact ⟨_, _, (Steps.of_next rfl).trans head.steps⟩
  | inside opens _ ih =>
      obtain ⟨done', rest', inner⟩ := ih
      exact ⟨_, _, (Steps.of_next rfl).trans (opens.steps.trans (inner.trans (.of_next rfl)))⟩
  | later head _ ih =>
      obtain ⟨done', rest', later⟩ := ih
      exact ⟨done', rest',
        (Steps.of_next rfl).trans (head.call_steps.trans ((Steps.of_next rfl).trans later))⟩

/-- A call that raises does so with those that wait for it as they were. -/
theorem Fails.call_steps (h : l.Fails [ref] e l') :
    Steps ⟨l, callers, done, rest, .asked ref⟩ ⟨l', callers, done, rest, .raising e⟩ := by
  cases h with
  | refused head => exact head.steps
  | inside opens parts =>
      obtain ⟨done', rest', inner⟩ := parts.steps
      exact opens.steps.trans (inner.trans (.of_next rfl))
  | later _ none => cases none

/-- A call leads to what the bounded call answers, and leaves the stack as it was. -/
theorem steps_ended {depth : Nat} (m : Moment) (ready : m.loader.Ready depth)
    (asked : m.phase = .asked ref) :
    (resolveWithin depth m.loader ref).2.resolving = m.loader.resolving ∧
      m.Steps (m.ended (resolveWithin depth m.loader ref)) := by
  obtain ⟨l, callers, done, rest, phase⟩ := m
  subst asked
  rcases h : resolveWithin depth l ref with ⟨e | t, l'⟩
  · have fails := (resolveWithin_eq_error_iff ready).mp h
    exact ⟨fails.frame.2, fails.call_steps⟩
  · have resolves := (resolveWithin_eq_ok_iff ready).mp h
    exact ⟨resolves.frame.2, resolves.call_steps⟩

/-- A call from outside comes to its end. -/
theorem steps_outcome {depth : Nat} (ready : l.Ready depth) (refs : List Json) :
    ∃ last, (first l refs).Steps last ∧
      last.outcome? = some (resolveEach (resolveWithin depth) l refs) := by
  rcases h : resolveEach (resolveWithin depth) l refs with ⟨e | ts, l'⟩
  · obtain ⟨done, rest, steps⟩ := ((resolveEach_eq_error_iff ready).mp h).steps
    exact ⟨_, steps, rfl⟩
  · exact ⟨_, ((resolveEach_eq_ok_iff ready).mp h).steps, rfl⟩

end Steps

end TypeGraph.Loader
