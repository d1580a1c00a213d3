import Mathlib.Data.List.Nodup
import Mathlib.Data.List.Perm.Subperm
import TypeGraph.Loader.Basic

/-!
Derivations of what a loader answers. A list of references resolves or fails by rules that say
what one reference does and do not bound how deep calls nest. The loader's bounded calls follow
the rules exactly, because names on the stack are distinct and declared, so the bound is never
reached.
-/

namespace TypeGraph.Loader

/-- A name that is neither kept nor being built. -/
structure Fresh (l : Loader) (name : Text) : Prop where
  unkept : l.resolved.get? name = none
  idle : name ∉ l.resolving

/-- A name that is answered without following any definition. -/
inductive Finds (l : Loader) (name : Text) : DataType → Loader → Prop
  | kept {t : DataType} (known : l.resolved.get? name = some t) : Finds l name t l
  | primitive {kind : Primitive} (fresh : l.Fresh name)
      (undeclared : l.definitions.get? name = none) (known : Primitive.ofName? name = some kind) :
      Finds l name (.primitive l.nextId .none kind)
        (l.keep name (.primitive l.nextId .none kind))
  | unresolved (fresh : l.Fresh name) (undeclared : l.definitions.get? name = none)
      (unknown : Primitive.ofName? name = none) :
      Finds l name (.unresolved l.nextId .none name)
        ((l.report [.unresolvedReference name l.current?]).keep name
          (.unresolved l.nextId .none name))

/-- A reference that is refused before anything else is resolved. -/
inductive Refuses (l : Loader) : Json → LoadFailure → Prop
  | notText {ref : Json} (compound : ref.asText? = none) :
      Refuses l ref (.graph (.referenceNotText ref.typeName))
  | circular {name : Text} (unkept : l.resolved.get? name = none) (busy : name ∈ l.resolving) :
      Refuses l (.str name) (.graph (.circular (l.chainTo name)))
  | malformed {name : Text} {definition : Json} {e : LoadFailure} (fresh : l.Fresh name)
      (declared : l.definitions.get? name = some definition)
      (fault : Definition.ofJson name definition = .error e) : Refuses l (.str name) e

/-- A name whose definition is followed. -/
structure Opens (l : Loader) (name : Text) (d : Definition) : Prop where
  fresh : l.Fresh name
  declared : ∃ definition, l.definitions.get? name = some definition ∧
    Definition.ofJson name definition = .ok d

/-- The loader that resolves the parts of a definition. -/
def start (l : Loader) (name : Text) (d : Definition) : Loader :=
  (l.enter name).report [d.buildEvent name]

/-- The loader after the type of a definition has been built. -/
def finish (l : Loader) (name : Text) (t : DataType) : Loader :=
  (l.report t.constructionEvents).leave.keep name t

/-- References that all resolve, one after the other. -/
inductive Resolves : Loader → List Json → List DataType → Loader → Prop
  | nil {l : Loader} : Resolves l [] [] l
  | found {l l₁ l₂ : Loader} {name : Text} {t : DataType} {refs : List Json}
      {ts : List DataType} (head : l.Finds name t l₁) (rest : Resolves l₁ refs ts l₂) :
      Resolves l (.str name :: refs) (t :: ts) l₂
  | built {l l₁ l₂ : Loader} {name : Text} {d : Definition} {refs : List Json}
      {targets ts : List DataType} (opens : l.Opens name d)
      (parts : Resolves (l.start name d) d.references targets l₁)
      (rest : Resolves (l₁.finish name (d.assemble l₁.nextId name targets)) refs ts l₂) :
      Resolves l (.str name :: refs) (d.assemble l₁.nextId name targets :: ts) l₂

/-- References one of which does not resolve. -/
inductive Fails : Loader → List Json → LoadFailure → Loader → Prop
  | refused {l : Loader} {ref : Json} {refs : List Json} {e : LoadFailure}
      (head : l.Refuses ref e) : Fails l (ref :: refs) e l
  | inside {l l₁ : Loader} {name : Text} {d : Definition} {refs : List Json} {e : LoadFailure}
      (opens : l.Opens name d) (parts : Fails (l.start name d) d.references e l₁) :
      Fails l (.str name :: refs) e l₁.leave
  | later {l l₁ l₂ : Loader} {ref : Json} {t : DataType} {refs : List Json} {e : LoadFailure}
      (head : Resolves l [ref] [t] l₁) (rest : Fails l₁ refs e l₂) : Fails l (ref :: refs) e l₂

/-- What resolving references leads to. -/
def Yields (l : Loader) (refs : List Json) :
    Except LoadFailure (List DataType) × Loader → Prop
  | (.ok ts, l') => l.Resolves refs ts l'
  | (.error e, l') => l.Fails refs e l'

@[simp] theorem start_definitions (l : Loader) (name : Text) (d : Definition) :
    (l.start name d).definitions = l.definitions := rfl

@[simp] theorem start_resolved (l : Loader) (name : Text) (d : Definition) :
    (l.start name d).resolved = l.resolved := rfl

@[simp] theorem start_resolving (l : Loader) (name : Text) (d : Definition) :
    (l.start name d).resolving = l.resolving ++ [name] := rfl

@[simp] theorem start_events (l : Loader) (name : Text) (d : Definition) :
    (l.start name d).events = l.events ++ [d.buildEvent name] := rfl

@[simp] theorem finish_definitions (l : Loader) (name : Text) (t : DataType) :
    (l.finish name t).definitions = l.definitions := rfl

@[simp] theorem finish_resolved (l : Loader) (name : Text) (t : DataType) :
    (l.finish name t).resolved = l.resolved.set name t := rfl

@[simp] theorem finish_resolving (l : Loader) (name : Text) (t : DataType) :
    (l.finish name t).resolving = l.resolving.dropLast := rfl

@[simp] theorem finish_events (l : Loader) (name : Text) (t : DataType) :
    (l.finish name t).events = l.events ++ t.constructionEvents := rfl

theorem leave_enter (l : Loader) (name : Text) : (l.enter name).leave = l := by
  simp [enter, leave]

theorem Opens.mem_keys {l : Loader} {name : Text} {d : Definition} (opens : l.Opens name d) :
    name ∈ l.definitions.keys := by
  obtain ⟨definition, declared, -⟩ := opens.declared
  rw [← Mapping.isSome_get?_iff, declared]
  rfl

section Enter

variable {l : Loader} {name : Text} {d : Definition}

theorem Fresh.nodup_enter (fresh : l.Fresh name) (distinct : l.resolving.Nodup) :
    (l.enter name).resolving.Nodup := by
  change (l.resolving ++ [name]).Nodup
  exact List.concat_eq_append ▸ distinct.concat fresh.idle

theorem enter_subset (known : name ∈ l.definitions.keys)
    (declared : l.resolving ⊆ l.definitions.keys) :
    (l.enter name).resolving ⊆ l.definitions.keys :=
  List.append_subset.mpr ⟨declared, List.cons_subset.mpr ⟨known, List.nil_subset _⟩⟩

theorem Fresh.enter_unkept (fresh : l.Fresh name)
    (unkept : ∀ busy ∈ l.resolving, l.resolved.get? busy = none) :
    ∀ busy ∈ (l.enter name).resolving, l.resolved.get? busy = none := by
  intro busy hbusy
  rcases List.mem_append.mp hbusy with hbusy | hbusy
  · exact unkept busy hbusy
  · rw [List.mem_singleton.mp hbusy]
    exact fresh.unkept

theorem Opens.nodup_start (opens : l.Opens name d) (distinct : l.resolving.Nodup) :
    (l.start name d).resolving.Nodup :=
  opens.fresh.nodup_enter distinct

theorem Opens.start_subset (opens : l.Opens name d) (declared : l.resolving ⊆ l.definitions.keys) :
    (l.start name d).resolving ⊆ l.definitions.keys :=
  enter_subset opens.mem_keys declared

theorem Opens.start_unkept (opens : l.Opens name d)
    (unkept : ∀ busy ∈ l.resolving, l.resolved.get? busy = none) :
    ∀ busy ∈ (l.start name d).resolving, l.resolved.get? busy = none :=
  opens.fresh.enter_unkept unkept

end Enter

theorem Finds.frame {l l' : Loader} {name : Text} {t : DataType} (h : l.Finds name t l') :
    l'.definitions = l.definitions ∧ l'.resolving = l.resolving := by
  cases h <;> exact ⟨rfl, rfl⟩

theorem Resolves.frame {l l' : Loader} {refs : List Json} {ts : List DataType}
    (h : l.Resolves refs ts l') :
    l'.definitions = l.definitions ∧ l'.resolving = l.resolving := by
  induction h with
  | nil => exact ⟨rfl, rfl⟩
  | found head _ ih => exact ⟨ih.1.trans head.frame.1, ih.2.trans head.frame.2⟩
  | built _ _ _ ihParts ihRest =>
      refine ⟨ihRest.1.trans ihParts.1, ihRest.2.trans ?_⟩
      rw [finish_resolving, ihParts.2, start_resolving, List.dropLast_concat]

theorem Fails.frame {l l' : Loader} {refs : List Json} {e : LoadFailure} (h : l.Fails refs e l') :
    l'.definitions = l.definitions ∧ l'.resolving = l.resolving := by
  induction h with
  | refused _ => exact ⟨rfl, rfl⟩
  | inside _ _ ih =>
      refine ⟨ih.1, ?_⟩
      change List.dropLast _ = _
      rw [ih.2, start_resolving, List.dropLast_concat]
  | later head _ ih => exact ⟨ih.1.trans head.frame.1, ih.2.trans head.frame.2⟩

theorem Resolves.append {l l₁ l₂ : Loader} {refs refs' : List Json} {ts ts' : List DataType}
    (h : l.Resolves refs ts l₁) (h' : l₁.Resolves refs' ts' l₂) :
    l.Resolves (refs ++ refs') (ts ++ ts') l₂ := by
  induction h with
  | nil => exact h'
  | found head _ ih => exact .found head (ih h')
  | built opens parts _ _ ih => exact .built opens parts (ih h')

theorem Fails.append {l l' : Loader} {refs : List Json} {e : LoadFailure} (h : l.Fails refs e l')
    (refs' : List Json) : l.Fails (refs ++ refs') e l' := by
  induction h generalizing refs' with
  | refused head => exact .refused head
  | inside opens parts _ => exact .inside opens parts
  | later head _ ih => exact .later head (ih refs')

theorem finds_or_refuses_or_opens (l : Loader) (ref : Json) :
    (∃ name t l', ref = .str name ∧ l.Finds name t l') ∨ (∃ e, l.Refuses ref e) ∨
      ∃ name d, ref = .str name ∧ l.Opens name d := by
  cases ref with
  | str name =>
      cases known : l.resolved.get? name with
      | some t => exact .inl ⟨name, t, l, rfl, .kept known⟩
      | none =>
          by_cases busy : name ∈ l.resolving
          · exact .inr (.inl ⟨_, .circular known busy⟩)
          · have fresh : l.Fresh name := ⟨known, busy⟩
            cases declared : l.definitions.get? name with
            | none =>
                cases kind : Primitive.ofName? name with
                | some _ => exact .inl ⟨name, _, _, rfl, .primitive fresh declared kind⟩
                | none => exact .inl ⟨name, _, _, rfl, .unresolved fresh declared kind⟩
            | some definition =>
                cases read : Definition.ofJson name definition with
                | error e => exact .inr (.inl ⟨e, .malformed fresh declared read⟩)
                | ok d => exact .inr (.inr ⟨name, d, rfl, fresh, definition, declared, read⟩)
  | null | bool _ | int _ | float _ | arr _ | obj _ => exact .inr (.inl ⟨_, .notText rfl⟩)

theorem Finds.resolveWithin_eq {l l' : Loader} {name : Text} {t : DataType}
    (h : l.Finds name t l') (depth : Nat) :
    resolveWithin (depth + 1) l (.str name) = (.ok t, l') := by
  cases h with
  | kept known => simp only [resolveWithin, known]
  | primitive fresh undeclared known =>
      simp only [resolveWithin, fresh.unkept, fresh.idle, if_false, resolveNew, undeclared, known]
  | unresolved fresh undeclared unknown =>
      simp only [resolveWithin, fresh.unkept, fresh.idle, if_false, resolveNew, undeclared,
        unknown]

theorem Refuses.resolveWithin_eq {l : Loader} {ref : Json} {e : LoadFailure}
    (h : l.Refuses ref e) (depth : Nat) : resolveWithin (depth + 1) l ref = (.error e, l) := by
  cases h with
  | notText compound => cases ref <;> first | rfl | cases compound
  | circular unkept busy => simp only [resolveWithin, unkept, busy, if_true]
  | malformed fresh declared fault =>
      simp only [resolveWithin, fresh.unkept, fresh.idle, if_false, resolveNew, declared, build,
        fault, leave_enter]

theorem Opens.resolveWithin_eq {l : Loader} {name : Text} {d : Definition}
    (h : l.Opens name d) (depth : Nat) :
    resolveWithin (depth + 1) l (.str name) =
      match resolveEach (resolveWithin depth) (l.start name d) d.references with
      | (.error e, l₁) => (.error e, l₁.leave)
      | (.ok targets, l₁) =>
          (.ok (d.assemble l₁.nextId name targets),
            l₁.finish name (d.assemble l₁.nextId name targets)) := by
  obtain ⟨definition, declared, read⟩ := h.declared
  simp only [resolveWithin, h.fresh.unkept, h.fresh.idle, if_false, resolveNew, declared, build,
    read, start]
  rcases resolveEach (resolveWithin depth) ((l.enter name).report [d.buildEvent name])
    d.references with ⟨_ | _, _⟩ <;> rfl

/-- Names on the stack are distinct and declared, and there is room for as many calls as there
are declared names that are not on it. -/
structure Ready (depth : Nat) (l : Loader) : Prop where
  distinct : l.resolving.Nodup
  declared : l.resolving ⊆ l.definitions.keys
  room : l.definitions.size < depth + l.resolving.length

theorem Ready.congr {depth : Nat} {l l' : Loader} (ready : l.Ready depth)
    (frame : l'.definitions = l.definitions ∧ l'.resolving = l.resolving) : l'.Ready depth := by
  obtain ⟨definitions, resolving⟩ := frame
  constructor
  · rw [resolving]
    exact ready.distinct
  · rw [definitions, resolving]
    exact ready.declared
  · rw [definitions, resolving]
    exact ready.room

/-- Distinct declared names are no more than there are declared names. -/
theorem length_resolving_le {l : Loader} (distinct : l.resolving.Nodup)
    (declared : l.resolving ⊆ l.definitions.keys) : l.resolving.length ≤ l.definitions.size := by
  have := (distinct.subperm declared).length_le
  simpa [Mapping.keys, Mapping.size] using this

theorem Ready.pos {depth : Nat} {l : Loader} (ready : l.Ready depth) : ∃ k, depth = k + 1 := by
  have bounded := length_resolving_le ready.distinct ready.declared
  have := ready.room
  exact ⟨depth - 1, by omega⟩

theorem Ready.start {depth : Nat} {l : Loader} {name : Text} {d : Definition}
    (ready : l.Ready (depth + 1)) (opens : l.Opens name d) : (l.start name d).Ready depth := by
  refine ⟨opens.nodup_start ready.distinct, opens.start_subset ready.declared, ?_⟩
  have := ready.room
  rw [start_resolving, start_definitions, List.length_append, List.length_singleton]
  omega

theorem ready_of_idle {l : Loader} (idle : l.resolving = []) {depth : Nat}
    (room : l.depthBound ≤ depth) : l.Ready depth := by
  constructor
  · rw [idle]
    exact List.nodup_nil
  · rw [idle]
    exact List.nil_subset _
  · rw [idle]
    exact room

/-- The bounded calls give what a successful derivation says. -/
theorem Resolves.resolveEach_eq {l l' : Loader} {refs : List Json} {ts : List DataType}
    (h : l.Resolves refs ts l') {depth : Nat} (ready : l.Ready depth) :
    resolveEach (resolveWithin depth) l refs = (.ok ts, l') := by
  induction h generalizing depth with
  | nil => rfl
  | found head rest ih =>
      obtain ⟨k, rfl⟩ := ready.pos
      simp only [resolveEach, head.resolveWithin_eq, ih (ready.congr head.frame)]
  | built opens parts rest ihParts ihRest =>
      obtain ⟨k, rfl⟩ := ready.pos
      have frame := (Resolves.built opens parts .nil).frame
      simp only [resolveEach, opens.resolveWithin_eq, ihParts (ready.start opens),
        ihRest (ready.congr frame)]

theorem Fails.resolveEach_eq {l l' : Loader} {refs : List Json} {e : LoadFailure}
    (h : l.Fails refs e l') {depth : Nat} (ready : l.Ready depth) :
    resolveEach (resolveWithin depth) l refs = (.error e, l') := by
  induction h generalizing depth with
  | refused head =>
      obtain ⟨k, rfl⟩ := ready.pos
      simp only [resolveEach, head.resolveWithin_eq]
  | inside opens parts ih =>
      obtain ⟨k, rfl⟩ := ready.pos
      simp only [resolveEach, opens.resolveWithin_eq, ih (ready.start opens)]
  | @later l l₁ l₂ ref t refs e head rest ih =>
      have one := head.resolveEach_eq ready
      rw [resolveEach] at one ⊢
      rcases h : resolveWithin depth l ref with ⟨_ | t', l'⟩
      · rw [h] at one
        cases one
      · rw [h] at one
        simp only [resolveEach, Prod.mk.injEq, Except.ok.injEq, List.cons.injEq, and_true] at one
        obtain ⟨rfl, rfl⟩ := one
        simp only [ih (ready.congr head.frame)]

theorem yields_cons {resolve : Loader → Json → Except LoadFailure DataType × Loader}
    {l l₁ : Loader} {ref : Json} {t : DataType} {refs : List Json}
    (head : l.Resolves [ref] [t] l₁) (step : resolve l ref = (.ok t, l₁))
    (tail : l₁.Yields refs (resolveEach resolve l₁ refs)) :
    l.Yields (ref :: refs) (resolveEach resolve l (ref :: refs)) := by
  simp only [resolveEach, step]
  rcases h : resolveEach resolve l₁ refs with ⟨_ | ts, l₂⟩
  · rw [h] at tail
    exact Fails.later head tail
  · rw [h] at tail
    exact head.append tail

/-- Calls never run out of depth: whatever the bounded calls give has a derivation. -/
theorem yields_resolveEach {depth : Nat} {l : Loader} (ready : l.Ready depth)
    (refs : List Json) : l.Yields refs (resolveEach (resolveWithin depth) l refs) := by
  -- Parts are resolved with less room, the other references of the list with as much as before.
  induction depth generalizing l refs with
  | zero =>
      obtain ⟨k, hk⟩ := ready.pos
      cases hk
  | succ depth ihDepth =>
      induction refs generalizing l with
      | nil => exact Resolves.nil
      | cons ref refs ih =>
          rcases l.finds_or_refuses_or_opens ref with
            ⟨name, t, l₁, rfl, finds⟩ | ⟨e, refuses⟩ | ⟨name, d, rfl, opens⟩
          · exact yields_cons (.found finds .nil) (finds.resolveWithin_eq depth)
              (ih (ready.congr finds.frame))
          · simp only [resolveEach, refuses.resolveWithin_eq]
            exact Fails.refused refuses
          · have parts := ihDepth (ready.start opens) d.references
            have step := opens.resolveWithin_eq depth
            rcases h : resolveEach (resolveWithin depth) (l.start name d) d.references with
              ⟨_ | targets, l₁⟩
            · rw [h] at parts step
              simp only [resolveEach, step]
              exact Fails.inside opens parts
            · rw [h] at parts step
              have head := Resolves.built opens parts .nil
              exact yields_cons head step (ih (ready.congr head.frame))

theorem resolveEach_eq_ok_iff {depth : Nat} {l l' : Loader} (ready : l.Ready depth)
    {refs : List Json} {ts : List DataType} :
    resolveEach (resolveWithin depth) l refs = (.ok ts, l') ↔ l.Resolves refs ts l' := by
  constructor
  · intro h
    have yields := yields_resolveEach ready refs
    rwa [h] at yields
  · exact fun resolves => resolves.resolveEach_eq ready

theorem resolveEach_eq_error_iff {depth : Nat} {l l' : Loader} (ready : l.Ready depth)
    {refs : List Json} {e : LoadFailure} :
    resolveEach (resolveWithin depth) l refs = (.error e, l') ↔ l.Fails refs e l' := by
  constructor
  · intro h
    have yields := yields_resolveEach ready refs
    rwa [h] at yields
  · exact fun fails => fails.resolveEach_eq ready

theorem resolveEach_singleton (resolve : Loader → Json → Except LoadFailure DataType × Loader)
    (l : Loader) (ref : Json) :
    resolveEach resolve l [ref] = ((resolve l ref).1.map fun t => [t], (resolve l ref).2) := by
  rcases h : resolve l ref with ⟨_ | _, _⟩ <;> simp [resolveEach, h, Except.map]

theorem resolveWithin_eq_ok_iff {depth : Nat} {l l' : Loader} (ready : l.Ready depth) {ref : Json}
    {t : DataType} :
    resolveWithin depth l ref = (.ok t, l') ↔ l.Resolves [ref] [t] l' := by
  rw [← resolveEach_eq_ok_iff ready, resolveEach_singleton]
  rcases resolveWithin depth l ref with ⟨_ | _, _⟩ <;> simp [Except.map]

theorem resolveWithin_eq_error_iff {depth : Nat} {l l' : Loader} (ready : l.Ready depth)
    {ref : Json} {e : LoadFailure} :
    resolveWithin depth l ref = (.error e, l') ↔ l.Fails [ref] e l' := by
  rw [← resolveEach_eq_error_iff ready, resolveEach_singleton]
  rcases resolveWithin depth l ref with ⟨_ | _, _⟩ <;> simp [Except.map]

/-- More room than is needed changes nothing. -/
theorem resolveWithin_eq_of_ready {depth depth' : Nat} {l : Loader} (ready : l.Ready depth)
    (ready' : l.Ready depth') (ref : Json) :
    resolveWithin depth l ref = resolveWithin depth' l ref := by
  rcases h : resolveWithin depth' l ref with ⟨e | t, l'⟩
  · rwa [resolveWithin_eq_error_iff ready, ← resolveWithin_eq_error_iff ready']
  · rwa [resolveWithin_eq_ok_iff ready, ← resolveWithin_eq_ok_iff ready']

section Idle

variable {l l' : Loader} {e : LoadFailure}

theorem resolve_eq_ok_iff (idle : l.resolving = []) {ref : Json} {t : DataType} :
    l.resolve ref = (.ok t, l') ↔ l.Resolves [ref] [t] l' :=
  resolveWithin_eq_ok_iff (ready_of_idle idle (Nat.le_refl _))

theorem resolve_eq_error_iff (idle : l.resolving = []) {ref : Json} :
    l.resolve ref = (.error e, l') ↔ l.Fails [ref] e l' :=
  resolveWithin_eq_error_iff (ready_of_idle idle (Nat.le_refl _))

/-- Each call measures its room anew, and finds the same. -/
theorem resolveEach_resolve_eq (idle : l.resolving = []) (refs : List Json) :
    resolveEach resolve l refs = resolveEach (resolveWithin l.depthBound) l refs := by
  induction refs generalizing l with
  | nil => rfl
  | cons ref refs ih =>
      have step : l.resolve ref = resolveWithin l.depthBound l ref := rfl
      rw [resolveEach, resolveEach, step]
      rcases h : resolveWithin l.depthBound l ref with ⟨_ | t, l'⟩
      · rfl
      · obtain ⟨definitions, resolving⟩ := ((resolve_eq_ok_iff idle).mp h).frame
        have bound : l'.depthBound = l.depthBound := by rw [depthBound, depthBound, definitions]
        simp only [ih (resolving.trans idle), bound]

def declaredRefs (l : Loader) : List Json := l.definitions.keys.map .str

theorem load_of_ok {ts : List DataType} (h : resolveEach resolve l l.declaredRefs = (.ok ts, l')) :
    l.load = (.ok (Mapping.ofList (l.definitions.keys.zip ts)),
      l'.report [.graphLoaded (Mapping.ofList (l.definitions.keys.zip ts)).size
        l'.resolved.size]) := by
  rw [declaredRefs] at h
  simp only [load, h]

theorem load_of_error (h : resolveEach resolve l l.declaredRefs = (.error e, l')) :
    l.load = (.error e, l') := by
  rw [declaredRefs] at h
  simp only [load, h]

theorem load_eq_ok_iff (idle : l.resolving = []) {types : Mapping DataType} :
    l.load = (.ok types, l') ↔
      ∃ ts l₁, l.Resolves l.declaredRefs ts l₁ ∧
        types = Mapping.ofList (l.definitions.keys.zip ts) ∧
        l' = l₁.report [.graphLoaded types.size l₁.resolved.size] := by
  have ready := ready_of_idle idle (Nat.le_refl _)
  constructor
  · intro loaded
    rcases h : resolveEach resolve l l.declaredRefs with ⟨e | ts, l₁⟩
    · rw [load_of_error h] at loaded
      cases loaded
    · rw [load_of_ok h] at loaded
      cases loaded
      rw [resolveEach_resolve_eq idle] at h
      exact ⟨ts, l₁, (resolveEach_eq_ok_iff ready).mp h, rfl, rfl⟩
  · rintro ⟨ts, l₁, resolves, rfl, rfl⟩
    refine load_of_ok ?_
    rw [resolveEach_resolve_eq idle]
    exact resolves.resolveEach_eq ready

theorem load_eq_error_iff (idle : l.resolving = []) :
    l.load = (.error e, l') ↔ l.Fails l.declaredRefs e l' := by
  have ready := ready_of_idle idle (Nat.le_refl _)
  constructor
  · intro loaded
    rcases h : resolveEach resolve l l.declaredRefs with ⟨e' | ts, l₁⟩
    · rw [load_of_error h] at loaded
      cases loaded
      rw [resolveEach_resolve_eq idle] at h
      exact (resolveEach_eq_error_iff ready).mp h
    · rw [load_of_ok h] at loaded
      cases loaded
  · intro fails
    refine load_of_error ?_
    rw [resolveEach_resolve_eq idle]
    exact fails.resolveEach_eq ready

end Idle

end TypeGraph.Loader
