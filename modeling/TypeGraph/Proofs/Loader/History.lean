import TypeGraph.Proofs.Loader.Agreement

/-!
Loaders in use. Calls may fail halfway, and declarations may be edited between calls. As long as no
edit touches a name that is kept already, a loader answers every call as a new one would answer it,
so a failed call leaves nothing behind that shows.
-/

namespace TypeGraph

/-- What is done with a loader: calls, and edits of its declarations. -/
inductive Operation
  | resolve (ref : Json)
  | load
  | define (name : Text) (definition : Json)
  | undefine (name : Text)

namespace Loader

/-- The loader after an operation, however a call ends. -/
def perform (l : Loader) : Operation → Loader
  | .resolve ref => (l.resolve ref).2
  | .load => l.load.2
  | .define name definition => l.define name definition
  | .undefine name => l.undefine name

def run (l : Loader) (operations : List Operation) : Loader := operations.foldl perform l

/-- Whether an operation leaves the definitions of all kept names alone. -/
def Spares (l : Loader) : Operation → Prop
  | .resolve _ | .load => True
  | .define name _ | .undefine name => name ∉ l.resolved.keys

instance (l : Loader) : (operation : Operation) → Decidable (l.Spares operation)
  | .resolve _ | .load => inferInstanceAs (Decidable True)
  | .define name _ | .undefine name => inferInstanceAs (Decidable (name ∉ l.resolved.keys))

def SparesAlong : Loader → List Operation → Prop
  | _, [] => True
  | l, operation :: operations =>
      l.Spares operation ∧ (l.perform operation).SparesAlong operations

/-- A loader that a new one becomes by calls and by edits of names that are not kept. -/
def Reached (l : Loader) : Prop :=
  ∃ definitions operations, SparesAlong (ofDefinitions definitions) operations ∧
    (ofDefinitions definitions).run operations = l

theorem Explains.congr {definitions definitions' : Mapping Json} {resolved : Mapping DataType}
    {name : Text} {t : DataType} (h : Explains definitions resolved name t)
    (same : definitions'.get? name = definitions.get? name) :
    Explains definitions' resolved name t := by
  cases h with
  | declared place declared read parts => exact .declared place (same.trans declared) read parts
  | primitive place undeclared known => exact .primitive place (same.trans undeclared) known
  | unresolved place undeclared unknown => exact .unresolved place (same.trans undeclared) unknown

theorem Settled.advance {l l' : Loader} (settled : l.Settled) (h : l.Advances l') : l'.Settled :=
  ⟨h.resolving.trans settled.idle, h.coherent settled.coherent⟩

theorem Settled.resolve {l : Loader} (settled : l.Settled) (ref : Json) :
    (l.resolve ref).2.Settled ∧ (l.resolve ref).2.definitions = l.definitions := by
  have advances := resolve_advances settled.idle ref
  exact ⟨settled.advance advances, advances.definitions⟩

theorem Settled.load {l : Loader} (settled : l.Settled) :
    l.load.2.Settled ∧ l.load.2.definitions = l.definitions := by
  have advances := load_advances settled.idle
  exact ⟨settled.advance advances, advances.definitions⟩

theorem Settled.perform {l : Loader} (settled : l.Settled) {operation : Operation}
    (spares : l.Spares operation) : (l.perform operation).Settled := by
  have other {name kept : Text} {t : DataType} (unkept : name ∉ l.resolved.keys)
      (known : l.resolved.get? kept = some t) : kept ≠ name :=
    fun same => unkept (same ▸ Mapping.mem_keys_of_get? known)
  cases operation with
  | resolve ref => exact (settled.resolve ref).1
  | load => exact settled.load.1
  | define name definition =>
      refine ⟨settled.idle, fun kept t known => (settled.coherent kept t known).congr ?_⟩
      rw [Loader.perform, define, Mapping.get?_set, if_neg (other spares known)]
  | undefine name =>
      refine ⟨settled.idle, fun kept t known => (settled.coherent kept t known).congr ?_⟩
      exact Mapping.get?_erase_of_ne _ (other spares known)

theorem Settled.run {l : Loader} (settled : l.Settled) {operations : List Operation}
    (spares : l.SparesAlong operations) : (l.run operations).Settled := by
  induction operations generalizing l with
  | nil => exact settled
  | cons operation operations ih => exact ih (settled.perform spares.1) spares.2

theorem Reached.settled {l : Loader} (reached : l.Reached) : l.Settled := by
  obtain ⟨definitions, operations, spares, rfl⟩ := reached
  exact (settled_ofDefinitions definitions).run spares

/-- A loader in use answers as a new one with its declarations. A failed call fails again in the
same way, and since a name that cannot be resolved is never kept, giving it another definition
makes everything load as if that had been its definition from the start. -/
theorem reached_answers_as_fresh {l : Loader} (reached : l.Reached) :
    (∀ ref, SameOutcome (fun t u => DataType.Alike [t] [u]) (l.resolve ref).1
      ((ofDefinitions l.definitions).resolve ref).1) ∧
    SameOutcome SameTypes l.load.1 (ofDefinitions l.definitions).load.1 ∧
    (∀ ref e, (l.resolve ref).1 = .error e → ((l.resolve ref).2.resolve ref).1 = .error e) ∧
    (∀ e, l.load.1 = .error e → l.load.2.load.1 = .error e) ∧
    ∀ name definition,
      ¬ (WellFormedFrom l.definitions name ∧ AcyclicFrom l.definitions name) →
      SameOutcome SameTypes (l.define name definition).load.1
        (ofDefinitions (l.definitions.set name definition)).load.1 := by
  have settled := reached.settled
  have fresh := settled_ofDefinitions
  refine ⟨?_, settled.load_sameOutcome (fresh _) rfl, ?_, ?_, ?_⟩
  · intro ref
    exact settled.resolve_sameOutcome (fresh _) (.refl _) fun _ _ => Set.mem_univ _
  · intro ref e failed
    obtain ⟨settled', definitions⟩ := settled.resolve ref
    have same : SameOn Set.univ l.definitions (l.resolve ref).2.definitions :=
      definitions ▸ .refl _
    exact (settled.resolve_sameOutcome settled' same fun _ _ => Set.mem_univ _).eq_error failed
  · intro e failed
    obtain ⟨settled', definitions⟩ := settled.load
    exact (settled.load_sameOutcome settled' definitions).eq_error failed
  · intro name definition faulty
    have spares : l.Spares (.define name definition) :=
      fun kept => faulty (settled.coherent.sound_of_kept kept)
    exact (settled.perform spares).load_sameOutcome (fresh _) rfl

/-- Loading fails on a definition that is no object, and succeeds after it is replaced. -/
theorem repaired_answers_as_fresh :
    let l := (ofDefinitions (.ofList [("A", .obj [("properties", .obj [("b", .str "B")])]),
      ("B", .bool true)])).run [.load, .resolve (.str "C"), .define "B" (.obj [])]
    l.Reached ∧ SameOutcome SameTypes l.load.1 (ofDefinitions l.definitions).load.1 := by
  intro l
  have reached : l.Reached := by
    refine ⟨_, _, ?_, rfl⟩
    exact ⟨trivial, trivial, by decide, trivial⟩
  exact ⟨reached, (reached_answers_as_fresh reached).2.1⟩

end Loader
end TypeGraph
