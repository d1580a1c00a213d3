import TypeGraph.Proofs.Session.Objects

/-!
What becomes of names over the life of a session. A step binds a name anew only if it builds an
object under this very name, and it leaves every other binding in its place. So a session whose
names are not bound anew goes on answering whatever it has an answer to.
-/

namespace TypeGraph

namespace Json.Table

variable {α : Type} {key name : Json} {value : α}

/-- What is found under a name is kept when another key is written. -/
theorem find?_setEntry {l : List (Json × α)} {entry : Json × α}
    (found : l.find? (fun e => e.1.same name) = some entry) (other : ¬ entry.1.same key = true) :
    (setEntry key value l).find? (fun e => e.1.same name) = some entry := by
  induction l with
  | nil => cases found
  | cons first rest ih =>
      rw [setEntry]
      rw [List.find?_cons] at found
      cases here : first.1.same name with
      | true =>
          rw [here] at found
          cases found
          rw [if_neg other, List.find?_cons, here]
      | false =>
          rw [here] at found
          split
          · rw [List.find?_cons, here, found]
          · rw [List.find?_cons, here, ih found]

theorem setEntry_append {l : List (Json × α)} (fresh : ∀ e ∈ l, ¬ e.1.same key = true)
    (more : List (Json × α)) : setEntry key value (l ++ more) = l ++ setEntry key value more := by
  induction l with
  | nil => rfl
  | cons first rest ih =>
      obtain ⟨here, later⟩ := List.forall_mem_cons.mp fresh
      rw [List.cons_append, setEntry, if_neg here, ih later, List.cons_append]

end Json.Table

namespace Session

/-- A step builds an object under a name that stands for a key. -/
def Step.Rebinds (step : Step) (key : Json) : Prop :=
  ∃ name plan probe, step.action = .build name plan probe ∧ key.same name = true

/-- The bindings of a session stand first in another. -/
def Extends (s s' : Session) : Prop := ∃ more, s'.bound.entries = s.bound.entries ++ more

section Step

variable {s s' : Session} {action : Step} {name : Json} {item : Item}

/-- A step keeps the bindings or writes one of them. -/
theorem bound_step (s : Session) (step : Step) :
    (s.step step).2.2.bound = s.bound ∨
      ∃ key item, (∀ k : Json, k.same key = true → step.Rebinds k) ∧
        (s.step step).2.2.bound = s.bound.set key item := by
  by_cases builds : ∃ key item, s.Builds step key item
  · obtain ⟨key, item, builds⟩ := builds
    have bound := builds.step_eq.2
    obtain ⟨_, plan, probe, -, action, -⟩ := builds
    split at bound
    · exact .inr ⟨key, item, fun k same => ⟨key, plan, probe, action, same⟩, by rw [bound]⟩
    · exact .inl (by rw [bound])
  · obtain ⟨same, -⟩ := step_of_not_builds fun key item h => builds ⟨key, item, h⟩
    exact .inl (by rw [same])

theorem lookup_eq_ok_iff :
    s.lookup name = .ok item ↔ keyFault? name = none ∧
      ∃ key, s.bound.entries.find? (fun e => e.1.same name) = some (key, item) := by
  unfold lookup Json.Table.get?
  cases keyFault? name with
  | some e => simp
  | none =>
      cases s.bound.entries.find? fun e => e.1.same name with
      | none => simp
      | some entry => simp [Prod.ext_iff]

theorem find?_step {entry : Json × Item}
    (found : s.bound.entries.find? (fun e => e.1.same name) = some entry)
    (spared : ¬ action.Rebinds entry.1) :
    (s.step action).2.2.bound.entries.find? (fun e => e.1.same name) = some entry := by
  rcases s.bound_step action with same | ⟨key, item, rebinds, written⟩
  · rw [same, found]
  · rw [written]
    exact Json.Table.find?_setEntry found fun same => spared (rebinds _ same)

theorem find?_after {entry : Json × Item} {steps : List Step}
    (found : s.bound.entries.find? (fun e => e.1.same name) = some entry)
    (spared : ∀ step ∈ steps, ¬ step.Rebinds entry.1) :
    (s.after steps).bound.entries.find? (fun e => e.1.same name) = some entry := by
  induction steps generalizing s with
  | nil => exact found
  | cons step rest ih =>
      obtain ⟨first, later⟩ := List.forall_mem_cons.mp spared
      exact ih (find?_step found first) later

/-- A name that no step binds anew stays with its object. -/
theorem lookup_after {steps : List Step} (h : s.lookup name = .ok item)
    (spared : ∀ step ∈ steps, ∀ key ∈ s.bound.keys, key.same name = true → ¬ step.Rebinds key) :
    (s.after steps).lookup name = .ok item := by
  obtain ⟨scalar, key, found⟩ := lookup_eq_ok_iff.mp h
  have bound : key ∈ s.bound.keys := List.mem_map_of_mem (List.mem_of_find?_eq_some found)
  have same : key.same name = true :=
    List.find?_some (p := fun e : Json × Item => e.1.same name) found
  exact lookup_eq_ok_iff.mpr
    ⟨scalar, key, find?_after found fun step hstep => spared step hstep key bound same⟩

theorem Extends.step (h : s.Extends s') (spared : ∀ key ∈ s.bound.keys, ¬ action.Rebinds key) :
    s.Extends (s'.step action).2.2 := by
  obtain ⟨more, entries⟩ := h
  rcases s'.bound_step action with same | ⟨key, item, rebinds, written⟩
  · exact ⟨more, by rw [same, entries]⟩
  · refine ⟨Json.Table.setEntry key item more, ?_⟩
    rw [written, Json.Table.set, entries]
    refine Json.Table.setEntry_append (fun e he same => ?_) more
    exact spared e.1 (List.mem_map_of_mem he) (rebinds _ same)

theorem extends_after {steps : List Step}
    (spared : ∀ step ∈ steps, ∀ key ∈ s.bound.keys, ¬ step.Rebinds key) :
    s.Extends (s.after steps) := by
  have onwards (s' : Session) (h : s.Extends s') : s.Extends (s'.after steps) := by
    induction steps generalizing s' with
    | nil => exact h
    | cons step rest ih =>
        obtain ⟨first, later⟩ := List.forall_mem_cons.mp spared
        exact ih later _ (h.step first)
  exact onwards s ⟨[], (List.append_nil _).symm⟩

end Step

namespace Extends

variable {s s' : Session} (h : s.Extends s')

include h

theorem lookup (name : Json) : Except.Below (s.lookup name) (s'.lookup name) := by
  intro item found
  obtain ⟨more, entries⟩ := h
  obtain ⟨scalar, key, found⟩ := lookup_eq_ok_iff.mp found
  rw [lookup_eq_ok_iff, entries, List.find?_append, found]
  exact ⟨scalar, key, rfl⟩

theorem nameOf (item : Item) : Except.Below (s.nameOf item) (s'.nameOf item) := by
  intro name named
  obtain ⟨more, entries⟩ := h
  unfold Session.nameOf at named ⊢
  rw [entries, List.find?_append]
  cases found : s.bound.entries.find? fun e => e.2.id == item.id with
  | none =>
      rw [found] at named
      cases named
  | some entry =>
      rw [found] at named
      exact named

theorem lookupTable (entries : Json) :
    Except.Below (Session.lookupTable s.lookup entries)
      (Session.lookupTable s'.lookup entries) := by
  refine (Except.Below.refl _).bind fun items => Except.below_foldlM (fun table entry => ?_) items _
  exact (Except.Below.refl _).bind fun pair => (h.lookup pair.2).bind fun _ => .refl _

theorem describe (item : Item) (probe : Json) :
    Except.Below (s.describe item probe) (s'.describe item probe) := by
  refine (Except.Below.map ?_ _).mapError _
  refine (Except.Below.refl _).bind fun _ => ?_
  refine (Except.below_mapM (fun e : Json × Item => (h.nameOf e.2).map _) _).bind fun _ => ?_
  refine (Except.Below.refl _).bind fun _ => (Except.Below.refl _).bind fun _ => ?_
  refine (Except.below_mapM h.nameOf _).bind fun _ => ?_
  refine (Except.below_mapM h.nameOf _).bind fun _ => ?_
  exact .refl _

theorem addDistinct (set : List Item) (name : Json) :
    Except.Below (s.addDistinct set name) (s'.addDistinct set name) :=
  (h.lookup name).bind fun _ => .refl _

/-- Whatever a session answers, it still answers when more names are bound. -/
theorem answer (question : Question) : Except.Below (s.answer question) (s'.answer question) := by
  cases question with
  | describe name probe => exact (h.lookup name).bind fun item => h.describe item probe
  | required name properties =>
      refine (Except.Below.refl _).bind fun items => Except.Below.map ?_ _
      exact Except.below_mapM (fun property => (h.lookup name).bind fun _ => .refl _) items
  | equal first second =>
      exact (h.lookup first).bind fun _ => (h.lookup second).bind fun _ => .refl _
  | distinct names =>
      refine (Except.Below.refl _).bind fun items => ?_
      exact (Except.below_foldlM h.addDistinct items _).bind fun _ => .refl _
  | unresolvedNames types => exact (h.lookupTable types).bind fun _ => .refl _
  | report types config => exact (h.lookupTable types).bind fun _ => .refl _

end Extends

end Session
end TypeGraph
