import TypeGraph.Proofs.Loader.Cycles
import TypeGraph.Proofs.Loader.Denotation

/-!
What a failed call leaves behind. A failure passes through all the calls in progress, which put the
stack back as it was, and what was kept by then stays kept. So later calls find nothing that is half
built: the name that failed and those on the way to it are not kept, and whatever has been added is
kept with everything that it refers to.
-/

namespace TypeGraph.Loader

/-- While references are resolved one after the other, the loader turns to a reference, at any
depth, in the state in which it is by then. -/
inductive TurnsTo : Loader → List Json → Loader → Json → Prop
  | here {l : Loader} {ref : Json} {refs : List Json} : TurnsTo l (ref :: refs) l ref
  | inside {l p : Loader} {name : Text} {d : Definition} {refs : List Json} {ref : Json}
      (opens : l.Opens name d) (parts : TurnsTo (l.start name d) d.references p ref) :
      TurnsTo l (.str name :: refs) p ref
  | later {l l₁ p : Loader} {first ref : Json} {t : DataType} {refs : List Json}
      (head : l.Resolves [first] [t] l₁) (rest : TurnsTo l₁ refs p ref) :
      TurnsTo l (first :: refs) p ref

section TurnsTo

variable {l l' p : Loader} {refs : List Json} {ref : Json} {e : LoadFailure}

/-- A failure arises at a reference that is turned to. -/
theorem Fails.turnsTo (h : l.Fails refs e l') :
    ∃ p ref, l.TurnsTo refs p ref ∧ p.Refuses ref e := by
  induction h with
  | refused head => exact ⟨_, _, .here, head⟩
  | inside opens _ ih =>
      obtain ⟨p, ref, turns, refuses⟩ := ih
      exact ⟨p, ref, .inside opens turns, refuses⟩
  | later head _ ih =>
      obtain ⟨p, ref, turns, refuses⟩ := ih
      exact ⟨p, ref, .later head turns, refuses⟩

/-- A refusal of a reference that is turned to is the failure of the whole call, which keeps nothing
after it. -/
theorem TurnsTo.fails (h : l.TurnsTo refs p ref) (refuses : p.Refuses ref e) :
    ∃ l', l.Fails refs e l' ∧ l'.resolved = p.resolved := by
  induction h with
  | here => exact ⟨_, .refused refuses, rfl⟩
  | inside opens _ ih =>
      obtain ⟨l', fails, same⟩ := ih refuses
      exact ⟨l'.leave, .inside opens fails, same⟩
  | later head _ ih =>
      obtain ⟨l', fails, same⟩ := ih refuses
      exact ⟨l', .later head fails, same⟩

theorem TurnsTo.definitions (h : l.TurnsTo refs p ref) : p.definitions = l.definitions := by
  induction h with
  | here => rfl
  | inside _ _ ih => exact ih
  | later head _ ih => exact ih.trans head.frame.1

/-- What is turned to is one of the references, or a definition has it among its own. -/
theorem TurnsTo.mentioned (h : l.TurnsTo refs p ref) :
    ref ∈ refs ∨ ∃ name definition d, l.definitions.get? name = some definition ∧
      Definition.ofJson name definition = .ok d ∧ ref ∈ d.references := by
  induction h with
  | here => exact .inl (List.mem_cons_self ..)
  | @inside _ _ name d _ _ opens _ ih =>
      rcases ih with mentioned | elsewhere
      · obtain ⟨definition, declared, read⟩ := opens.declared
        exact .inr ⟨name, definition, d, declared, read, mentioned⟩
      · exact .inr elsewhere
  | later head _ ih =>
      refine ih.imp (List.mem_cons_of_mem _) ?_
      rw [head.frame.1]
      exact id

/-- A name in progress is not kept, whatever is turned to meanwhile. -/
theorem TurnsTo.busy_unkept (h : l.TurnsTo refs p ref)
    (unkept : ∀ busy ∈ l.resolving, l.resolved.get? busy = none) :
    ∀ busy ∈ p.resolving, p.resolved.get? busy = none := by
  induction h with
  | here => exact unkept
  | inside opens _ ih => exact ih (opens.start_unkept unkept)
  | later head _ ih =>
      apply ih
      intro busy hbusy
      rw [head.frame.2] at hbusy
      exact head.busy_unkept hbusy (unkept busy hbusy)

theorem Refuses.unkept {name : Text} (h : p.Refuses (.str name) e) :
    p.resolved.get? name = none := by
  cases h with
  | notText compound => cases compound
  | circular unkept _ => exact unkept
  | malformed fresh _ _ => exact fresh.unkept

theorem Fails.unique {depth : Nat} (ready : l.Ready depth) (h : l.Fails refs e l')
    {e' : LoadFailure} {l'' : Loader} (h' : l.Fails refs e' l'') : e' = e ∧ l'' = l' := by
  have same := (h'.resolveEach_eq ready).symm.trans (h.resolveEach_eq ready)
  simpa only [Prod.mk.injEq, Except.error.injEq] using same

/-- Where there is a failure, one of the references failed after all before it had resolved. -/
theorem Fails.split (h : l.Fails refs e l') : ∃ before ref after ts l₁,
    refs = before ++ ref :: after ∧ l.Resolves before ts l₁ ∧ l₁.Fails [ref] e l' := by
  induction h with
  | refused head => exact ⟨[], _, _, [], _, rfl, .nil, .refused head⟩
  | inside opens parts _ => exact ⟨[], _, _, [], _, rfl, .nil, .inside opens parts⟩
  | @later _ _ _ first _ _ _ head _ ih =>
      obtain ⟨before, ref, after, ts, l₁, rfl, resolves, fails⟩ := ih
      exact ⟨first :: before, ref, after, _, l₁, rfl, head.append resolves, fails⟩

/-- A name that fails is not kept. -/
theorem Fails.head_unkept {name : Text} (h : l.Fails [.str name] e l') :
    l'.resolved.get? name = none := by
  cases h with
  | refused head => exact head.unkept
  | inside opens parts => exact parts.busy_unkept (by simp) opens.fresh.unkept
  | later _ rest => cases rest

/-- Nothing is added that is not reached from the references. -/
theorem Fails.reached_of_kept (h : l.Fails refs e l') {name : Text}
    (kept : name ∈ l'.resolved.keys) :
    name ∈ l.resolved.keys ∨
      ∃ ref, .str ref ∈ refs ∧ Relation.ReflTransGen (Refers l.definitions) ref name := by
  induction h with
  | refused _ => exact .inl kept
  | @inside _ _ owner _ _ _ opens _ ih =>
      refine (ih kept).imp_right ?_
      rintro ⟨ref, mentioned, reached⟩
      exact ⟨owner, List.mem_cons_self .., .head (opens.refers mentioned) reached⟩
  | later head _ ih =>
      rcases ih kept with kept | ⟨ref, mentioned, reached⟩
      · refine (head.reached_of_kept kept).imp_right ?_
        rintro ⟨ref, mentioned, reached⟩
        obtain rfl := List.mem_singleton.mp mentioned
        exact ⟨ref, List.mem_cons_self .., reached⟩
      · exact .inr ⟨ref, List.mem_cons_of_mem _ mentioned, head.frame.1 ▸ reached⟩

end TurnsTo

/-- A name is kept with a type that has a part of another name. -/
def MadeOf (resolved : Mapping DataType) (name part : Text) : Prop :=
  ∃ t, resolved.get? name = some t ∧ ∃ u ∈ t.parts, u.name = part

section MadeOf

variable {sources : Set (Mapping Json)} {resolved : Mapping DataType} {name part : Text}

/-- What a kept type is made of is what the definition that explains it mentions. -/
theorem ExplainedBy.madeOf_iff_refers (explained : ExplainedBy sources resolved) {t : DataType}
    (known : resolved.get? name = some t) {definitions : Mapping Json}
    (explains : Explains definitions resolved name t) :
    MadeOf resolved name part ↔ Refers definitions name part := by
  cases explains with
  | @declared id definition d targets _ declared read parts =>
      have made := Definition.parts_assemble parts.length_eq id name
      constructor
      · rintro ⟨t, known', u, hu, rfl⟩
        obtain rfl := Option.some.inj (known.symm.trans known')
        rw [made] at hu
        obtain ⟨i, hi, rfl⟩ := List.getElem_of_mem hu
        have hi' := parts.length_eq ▸ hi
        obtain ⟨ref, same, knownPart, -⟩ := parts.get hi' hi
        refine ⟨definition, declared, (Definition.mentions_iff read _).mpr ?_⟩
        have mentioned := List.getElem_mem hi'
        rw [List.get_eq_getElem] at same
        rwa [same, ← explained.name_eq knownPart] at mentioned
      · rintro ⟨_, declared', mentions⟩
        obtain rfl := Option.some.inj (declared.symm.trans declared')
        obtain ⟨i, hi, same⟩ := List.getElem_of_mem ((Definition.mentions_iff read _).mp mentions)
        have hi' := parts.length_eq ▸ hi
        obtain ⟨ref, same', knownPart, -⟩ := parts.get hi hi'
        rw [List.get_eq_getElem, same] at same'
        obtain rfl := Json.str.inj same'
        refine ⟨_, known, targets[i], ?_, explained.name_eq knownPart⟩
        rw [made]
        exact List.getElem_mem hi'
  | primitive _ undeclared _ | unresolved _ undeclared _ =>
      constructor
      · rintro ⟨t, known', u, hu, -⟩
        obtain rfl := Option.some.inj (known.symm.trans known')
        exact absurd hu List.not_mem_nil
      · rintro ⟨_, declared, -⟩
        rw [undeclared] at declared
        cases declared

theorem ExplainedBy.kept_of_madeOf (explained : ExplainedBy sources resolved)
    (made : Relation.TransGen (MadeOf resolved) name part) : part ∈ resolved.keys := by
  cases made with
  | single last | tail _ last =>
      obtain ⟨t, known, u, hu, rfl⟩ := last
      exact Mapping.mem_keys_of_get? (explained.kept_of_mem_parts known hu).1

theorem Coherent.kept_of_transGen {l : Loader} (coherent : l.Coherent)
    (kept : name ∈ l.resolved.keys) (path : Relation.TransGen (Refers l.definitions) name part) :
    part ∈ l.resolved.keys := by
  induction path with
  | single refers => exact (coherent.kept_of_refers kept refers).1
  | tail _ refers ih => exact (coherent.kept_of_refers ih refers).1

end MadeOf

/-- A name is kept now and was not kept before. -/
def Added (l l' : Loader) (name : Text) : Prop :=
  name ∈ l'.resolved.keys ∧ name ∉ l.resolved.keys

/-- What may be left of a call that set out to resolve some names. The stack and the declarations
are as before, and so is everything that was kept. Each added name is reached from those names, and
is kept with what it refers to, directly or not. -/
structure Aftermath (l l' : Loader) (names : Set Text) : Prop where
  resolving : l'.resolving = l.resolving
  definitions : l'.definitions = l.definitions
  grows : l.resolved.Grows l'.resolved
  reached : ∀ name, Added l l' name →
    ∃ ref ∈ names, Relation.ReflTransGen (Refers l.definitions) ref name
  direct : ∀ name, Added l l' name → ∀ part,
    MadeOf l'.resolved name part ↔ Refers l.definitions name part
  closed : ∀ name, Added l l' name → ∀ part,
    Relation.TransGen (MadeOf l'.resolved) name part → part ∈ l'.resolved.keys

/-- A call fails at one of the references that it turns to. Neither its own name is kept after it,
nor one that was in progress when the failure arose, nor the one that was refused then. -/
structure Unfinished (l : Loader) (ref : Json) (e : LoadFailure) (l' : Loader) : Prop where
  own : ∀ name, ref = .str name → name ∉ l'.resolved.keys
  arises : ∃ p refused, l.TurnsTo [ref] p refused ∧ p.Refuses refused e
  unkept : ∀ p refused e', l.TurnsTo [ref] p refused → p.Refuses refused e' →
    e' = e ∧ ∀ name, name ∈ p.resolving ∨ refused = .str name → name ∉ l'.resolved.keys

section Steady

variable {l l' : Loader} {refs : List Json} {e : LoadFailure}

theorem Steady.aftermath (steady : l.Steady) (fails : l.Fails refs e l') {names : Set Text}
    (reached : ∀ name, Added l l' name →
      ∃ ref ∈ names, Relation.ReflTransGen (Refers l.definitions) ref name) :
    l.Aftermath l' names := by
  have advances := fails.advances
  have explained := (steady.advance advances).explained
  refine ⟨advances.resolving, advances.definitions, advances.grows, reached, ?direct, ?closed⟩
  case direct =>
    intro name added part
    obtain ⟨t, known⟩ := Mapping.exists_get?_of_mem_keys added.1
    have unkept := Mapping.get?_eq_none_iff.mpr added.2
    exact explained.madeOf_iff_refers known (explains_of_adds fails.adds unkept known)
  case closed => exact fun name _ part made => explained.kept_of_madeOf made

theorem Steady.aftermath_of_later (steady : l.Steady) (fails : l.Fails refs e l')
    {before : List Text} {ts : List DataType} {l₁ : Loader} {f : Text}
    (resolves : l.Resolves (before.map .str) ts l₁) (failsHead : l₁.Fails [.str f] e l') :
    l.Aftermath l' {name | name = f ∨ name ∈ before} := by
  have same : l₁.definitions = l.definitions := resolves.frame.1
  refine steady.aftermath fails fun name added => ?_
  rcases failsHead.reached_of_kept added.1 with kept | ⟨root, mentioned, reached⟩
  · obtain ⟨root, mentioned, reached⟩ := (resolves.reached_of_kept kept).resolve_left added.2
    obtain ⟨_, hroot, same⟩ := List.mem_map.mp mentioned
    exact ⟨root, .inr (Json.str.inj same ▸ hroot), reached⟩
  · exact ⟨root, .inl (Json.str.inj (List.mem_singleton.mp mentioned)), same ▸ reached⟩

theorem unfinished_of_fails (idle : l.resolving = []) {ref : Json} (fails : l.Fails [ref] e l') :
    l.Unfinished ref e l' := by
  refine ⟨?own, fails.turnsTo, ?unkept⟩
  case own =>
    rintro name rfl
    exact Mapping.get?_eq_none_iff.mp fails.head_unkept
  case unkept =>
    intro p refused e' turns refuses
    obtain ⟨l'', fails', same⟩ := turns.fails refuses
    obtain ⟨rfl, rfl⟩ := fails.unique (ready_of_idle idle (Nat.le_refl _)) fails'
    refine ⟨rfl, fun name hname => ?_⟩
    rw [← Mapping.get?_eq_none_iff, same]
    rcases hname with busy | rfl
    · exact turns.busy_unkept (by simp [idle]) name busy
    · exact refuses.unkept

theorem Steady.load_split (steady : l.Steady) (failed : l.load.1 = .error e) :
    ∃ before f after ts l₁, l.definitions.keys = before ++ f :: after ∧
      l.Resolves (before.map .str) ts l₁ ∧ l₁.Fails [.str f] e l.load.2 := by
  have fails := (load_eq_error_iff steady.idle).mp (Prod.ext failed rfl)
  obtain ⟨before, ref, after, ts, l₁, split, resolves, failsHead⟩ := fails.split
  obtain ⟨names, others, keys, rfl, hothers⟩ := List.map_eq_append_iff.mp split
  obtain ⟨f, rest, rfl, rfl, -⟩ := List.map_eq_cons_iff.mp hothers
  exact ⟨names, f, rest, ts, l₁, keys, resolves, failsHead⟩

end Steady

/-- Whatever has been done with a loader, a call that fails leaves it consistent. If loading fails,
the declared names before the one that failed have been resolved, and what is added is reached from
them or from that name. Where no edit has touched a kept name, everything that is kept is kept with
all that its definition leads to. -/
theorem failure_leaves_consistent (definitions : Mapping Json) (operations : List Operation) :
    let l := (ofDefinitions definitions).run operations
    (∀ ref e, (l.resolve ref).1 = .error e →
      l.Aftermath (l.resolve ref).2 {name | ref = .str name} ∧
        l.Unfinished ref e (l.resolve ref).2) ∧
    (∀ e, l.load.1 = .error e → ∃ before f after ts l₁,
      l.definitions.keys = before ++ f :: after ∧
      resolveEach resolve l (before.map .str) = (.ok ts, l₁) ∧
      l₁.resolve (.str f) = (.error e, l.load.2) ∧
      l.Aftermath l.load.2 {name | name = f ∨ name ∈ before} ∧
      l₁.Unfinished (.str f) e l.load.2 ∧
      ∀ name ∈ before, name ∈ l.load.2.resolved.keys) ∧
    (SparesAlong (ofDefinitions definitions) operations →
      ∀ l', (∃ ref, l' = (l.resolve ref).2) ∨ l' = l.load.2 → ∀ name ∈ l'.resolved.keys,
        ∀ part, Relation.TransGen (Refers l.definitions) name part → part ∈ l'.resolved.keys) := by
  intro l
  have steady : l.Steady := ((steady_ofDefinitions definitions).run operations).1
  refine ⟨?resolve, ?load, ?spared⟩
  case resolve =>
    intro ref e failed
    have fails := (resolve_eq_error_iff steady.idle).mp (Prod.ext failed rfl)
    refine ⟨steady.aftermath fails fun name added => ?_, unfinished_of_fails steady.idle fails⟩
    obtain ⟨root, mentioned, reached⟩ := (fails.reached_of_kept added.1).resolve_left added.2
    exact ⟨root, (List.mem_singleton.mp mentioned).symm, reached⟩
  case load =>
    intro e failed
    have fails := (load_eq_error_iff steady.idle).mp (Prod.ext failed rfl)
    obtain ⟨before, f, after, ts, l₁, keys, resolves, failsHead⟩ := steady.load_split failed
    have idle : l₁.resolving = [] := resolves.frame.2.trans steady.idle
    refine ⟨before, f, after, ts, l₁, keys, ?_, (resolve_eq_error_iff idle).mpr failsHead,
      steady.aftermath_of_later fails resolves failsHead, unfinished_of_fails idle failsHead,
      fun name hname => ?_⟩
    · rw [resolveEach_resolve_eq steady.idle]
      exact resolves.resolveEach_eq (ready_of_idle steady.idle (Nat.le_refl _))
    · exact failsHead.grows.keys.subset (resolves.mem_keys (List.mem_map_of_mem hname))
  case spared =>
    intro spares l' called name kept part path
    have settled : l.Settled := (settled_ofDefinitions definitions).run spares
    have after : l'.Settled ∧ l'.definitions = l.definitions := by
      rcases called with ⟨ref, rfl⟩ | rfl
      · exact settled.resolve ref
      · exact settled.load
    exact after.1.coherent.kept_of_transGen kept (after.2 ▸ path)

/-- What was resolved before the failure is kept, but not the names that wait for what failed. -/
example :
    let l := ofDefinitions (.ofList [
      ("A", .obj [("properties", .obj [("b", .str "B")])]),
      ("B", .obj [("type", .str "anyOf"), ("items", .arr [.str "Long", .str "D", .str "C"])]),
      ("C", .null),
      ("D", .obj [("properties", .obj [])])])
    (l.resolve (.str "A")).1 = .error (.graph (.definitionNotMapping "C")) ∧
      (l.resolve (.str "A")).2.resolved.keys = ["Long", "D"] ∧
      (l.resolve (.str "A")).2.resolving = [] :=
  ⟨rfl, rfl, rfl⟩

end TypeGraph.Loader
