import Mathlib.Data.List.Chain
import TypeGraph.Proofs.Loader.Instances

/-!
The chains of circular references. The names being built form a path in which each definition
mentions the next name, so a reference back to one of them closes a cycle, and the chain that is
reported is this cycle without the names that merely lead to it. Earlier calls, failures and edits
make no difference, since the path is built anew by each call.
-/

namespace TypeGraph.Loader

/-- The names being built are a path of declared names, none of which is kept, and the last of them
mentions what is resolved next. -/
structure Linked (l : Loader) (refs : List Json) : Prop where
  distinct : l.resolving.Nodup
  declared : l.resolving ⊆ l.definitions.keys
  unkept : ∀ name ∈ l.resolving, l.resolved.get? name = none
  path : l.resolving.IsChain (Edge l.definitions)
  next : ∀ owner ∈ l.resolving.getLast?, ∀ name, .str name ∈ refs →
    name ∈ l.definitions.keys → Edge l.definitions owner name

section Linked

variable {l l' : Loader} {name : Text} {ref : Json} {refs : List Json}

theorem isChain_concat {definitions : Mapping Json} {names : List Text}
    (path : names.IsChain (Edge definitions))
    (edge : ∀ owner ∈ names.getLast?, Edge definitions owner name) :
    (names ++ [name]).IsChain (Edge definitions) := by
  apply List.isChain_append.mpr
  refine ⟨path, .singleton name, ?_⟩
  intro owner howner other hother
  cases hother
  exact edge owner howner

theorem Linked.path_concat (h : l.Linked refs) (mentioned : .str name ∈ refs)
    (declared : name ∈ l.definitions.keys) :
    (l.resolving ++ [name]).IsChain (Edge l.definitions) :=
  isChain_concat h.path fun owner howner => h.next owner howner name mentioned declared

theorem Linked.start {d : Definition} (h : l.Linked (.str name :: refs))
    (opens : l.Opens name d) : (l.start name d).Linked d.references := by
  refine ⟨opens.nodup_start h.distinct, opens.start_subset h.declared,
    opens.start_unkept h.unkept, h.path_concat (List.mem_cons_self ..) opens.mem_keys, ?_⟩
  intro owner howner part mentioned declared
  rw [start_resolving, List.getLast?_concat] at howner
  cases howner
  exact opens.edge mentioned declared

theorem Linked.tail {t : DataType} (h : l.Linked (ref :: refs)) (head : l.Resolves [ref] [t] l') :
    l'.Linked refs := by
  obtain ⟨definitions, resolving⟩ := head.frame
  refine ⟨?distinct, ?declared, ?unkept, ?path, ?next⟩
  case distinct => exact resolving ▸ h.distinct
  case declared =>
    rw [resolving, definitions]
    exact h.declared
  case unkept =>
    intro busy hbusy
    rw [resolving] at hbusy
    exact head.busy_unkept hbusy (h.unkept busy hbusy)
  case path =>
    rw [resolving, definitions]
    exact h.path
  case next =>
    rw [resolving, definitions]
    intro owner howner name mentioned
    exact h.next owner howner name (List.mem_cons_of_mem ref mentioned)

theorem linked_of_idle (idle : l.resolving = []) (refs : List Json) : l.Linked refs := by
  constructor <;> rw [idle] <;> simp

end Linked

/-- A chain that comes back to its first name and repeats nothing else. Its names are declared and
not kept, and the definition of each mentions the one after it. -/
structure Cycle (definitions : Mapping Json) (resolved : Mapping DataType)
    (chain : List Text) : Prop where
  closed : ∃ first between, chain = first :: between ++ [first] ∧ (first :: between).Nodup
  declared : ∀ name ∈ chain, name ∈ definitions.keys
  unkept : ∀ name ∈ chain, name ∉ resolved.keys
  path : chain.IsChain (Edge definitions)

theorem dropWhile_ne_eq_cons {name : Text} {names : List Text} (h : name ∈ names) :
    ∃ rest, names.dropWhile (· != name) = name :: rest := by
  induction names with
  | nil => cases h
  | cons other names ih =>
      by_cases same : other = name
      · exact ⟨names, by simp [same]⟩
      · have hmem := List.mem_of_ne_of_mem (Ne.symm same) h
        simpa [List.dropWhile_cons, same] using ih hmem

/-- A reference back to a name on the stack closes a cycle. -/
theorem Linked.cycle {l : Loader} {name : Text} {refs : List Json}
    (h : l.Linked (.str name :: refs)) (busy : name ∈ l.resolving) :
    Cycle l.definitions l.resolved (l.chainTo name) := by
  obtain ⟨rest, cut⟩ := dropWhile_ne_eq_cons busy
  have later : name :: rest <:+ l.resolving := cut ▸ List.dropWhile_suffix _
  have hchain : l.chainTo name = name :: rest ++ [name] := by rw [chainTo, cut]
  have onStack : ∀ other ∈ l.chainTo name, other ∈ l.resolving := by
    intro other hother
    rw [hchain, List.mem_append, List.mem_singleton] at hother
    rcases hother with hother | rfl
    · exact later.subset hother
    · exact busy
  refine ⟨⟨name, rest, hchain, h.distinct.sublist later.sublist⟩, ?declared, ?unkept, ?path⟩
  case declared => exact fun other hother => h.declared (onStack other hother)
  case unkept =>
    intro other hother
    exact Mapping.get?_eq_none_iff.mp (h.unkept other (onStack other hother))
  case path =>
    have path := h.path_concat (List.mem_cons_self ..) (h.declared busy)
    have closing : name :: rest ++ [name] <:+ l.resolving ++ [name] :=
      List.suffix_append_self_iff.mpr later
    rw [hchain]
    exact path.suffix closing

theorem Fails.cycle {l l' : Loader} {refs : List Json} {e : LoadFailure} (h : l.Fails refs e l')
    (linked : l.Linked refs) {chain : List Text} (circular : e = .graph (.circular chain)) :
    Cycle l.definitions l'.resolved chain := by
  induction h with
  | refused head =>
      cases head with
      | notText _ => cases circular
      | circular _ busy =>
          cases circular
          exact linked.cycle busy
      | malformed _ _ fault =>
          -- Reading a definition has faults of its own, but none of them is a cycle.
          subst circular
          exact absurd fault (Definition.ofJson_ne_overall (.circular chain))
  | inside opens _ ih => exact ih (linked.start opens) circular
  | later head _ ih => exact head.frame.1 ▸ ih (linked.tail head) circular

/-- Every name of a chain lies on the cycle. -/
theorem Cycle.onCycle {definitions : Mapping Json} {resolved : Mapping DataType}
    {chain : List Text} (h : Cycle definitions resolved chain) :
    ∀ name ∈ chain, OnCycle definitions name := by
  obtain ⟨first, between, rfl, -⟩ := h.closed
  have ordered := (h.path.imp fun _ _ => Relation.TransGen.single).pairwise
  obtain ⟨fromFirst, rest⟩ := List.pairwise_cons.mp ordered
  have around : OnCycle definitions first := fromFirst first (by simp)
  intro name hname
  by_cases same : name = first
  · exact same ▸ around
  · have hmem : name ∈ between := by simpa [same] using hname
    have back := (List.pairwise_append.mp rest).2.2 name hmem first (by simp)
    exact back.trans (fromFirst name (by simp [hmem]))

/-- Whatever has been done with a loader, a chain that it reports as circular is a cycle of its
current declarations and holds nothing but this cycle. So nothing is rejected as circular where
there is no cycle. -/
theorem circular_chain_is_cycle (definitions : Mapping Json) (operations : List Operation) :
    let l := (ofDefinitions definitions).run operations
    (∀ ref chain, (l.resolve ref).1 = .error (.graph (.circular chain)) →
      Cycle l.definitions (l.resolve ref).2.resolved chain ∧
        ∀ name ∈ chain, OnCycle l.definitions name) ∧
    (∀ chain, l.load.1 = .error (.graph (.circular chain)) →
      Cycle l.definitions l.load.2.resolved chain ∧ ∀ name ∈ chain, OnCycle l.definitions name) ∧
    ((∀ name, ¬ OnCycle l.definitions name) → ∀ chain,
      (∀ ref, (l.resolve ref).1 ≠ .error (.graph (.circular chain))) ∧
        l.load.1 ≠ .error (.graph (.circular chain))) := by
  intro l
  have idle : l.resolving = [] := ((steady_ofDefinitions definitions).run operations).1.idle
  have resolving : ∀ ref chain, (l.resolve ref).1 = .error (.graph (.circular chain)) →
      Cycle l.definitions (l.resolve ref).2.resolved chain := by
    intro ref chain h
    have fails := (resolve_eq_error_iff idle).mp (Prod.ext h rfl)
    exact fails.cycle (linked_of_idle idle _) rfl
  have loading : ∀ chain, l.load.1 = .error (.graph (.circular chain)) →
      Cycle l.definitions l.load.2.resolved chain := by
    intro chain h
    have fails := (load_eq_error_iff idle).mp (Prod.ext h rfl)
    exact fails.cycle (linked_of_idle idle _) rfl
  refine ⟨?_, ?_, ?_⟩
  · intro ref chain h
    have cycle := resolving ref chain h
    exact ⟨cycle, cycle.onCycle⟩
  · intro chain h
    have cycle := loading chain h
    exact ⟨cycle, cycle.onCycle⟩
  · intro acyclic chain
    have never {resolved : Mapping DataType} (cycle : Cycle l.definitions resolved chain) :
        False := by
      obtain ⟨first, between, rfl, -⟩ := cycle.closed
      exact acyclic first (cycle.onCycle first (by simp))
    exact ⟨fun ref h => never (resolving ref chain h), fun h => never (loading chain h)⟩

/-- The name that leads to the cycle is not in the chain. -/
example : (ofDefinitions (.ofList [
      ("A", .obj [("properties", .obj [("b", .str "B")])]),
      ("B", .obj [("type", .str "anyOf"), ("items", .arr [.str "Long", .str "C"])]),
      ("C", .obj [("properties", .obj [("b", .str "B")])])])).load.1 =
    .error (.graph (.circular ["B", "C", "B"])) := rfl

end TypeGraph.Loader
