import TypeGraph.Proofs.Loader.Aftermath

/-!
Documents on new loaders. If a document does not load, there is something wrong with what it
declares, and the error says what: there are no definitions, one of them cannot be read or refers to
something that is no text, or there is a cycle. A list or an object that stands for a type is wrong
as well, but the error for it is no graph error.
-/

namespace TypeGraph.Loader

/-- The definitions that a document holds. -/
def Defines (document : Json) (definitions : Mapping Json) : Prop :=
  ∃ entries types, document = .obj entries ∧
    (Mapping.ofList entries).get? "types" = some (.obj types) ∧ Mapping.ofList types = definitions

/-- Load a document with a new loader. -/
def loadDocument (document : Json) : Except LoadFailure (Mapping DataType) := do
  let l ← (ofDocument document).mapError .graph
  l.load.1

/-- A document loads: its loader and the loaded types. -/
def Loads (document : Json) (l : Loader) (types : Mapping DataType) : Prop :=
  Loader.ofDocument document = .ok l ∧ l.load.1 = .ok types

/-- What is wrong with declarations, and the error that says so. -/
inductive Defect (definitions : Mapping Json) : GraphError → Prop
  | definition {name : Text} {definition : Json} {g : GraphError}
      (declared : definitions.get? name = some definition)
      (unread : Definition.ofJson name definition = .error (.graph g))
      (fault : Definition.Fault name definition g) : Defect definitions g
  | reference {name : Text} {definition ref : Json} {d : Definition}
      (declared : definitions.get? name = some definition)
      (read : Definition.ofJson name definition = .ok d) (mentioned : ref ∈ d.references)
      (noText : ¬ Definition.IsText ref) : Defect definitions (.referenceNotText ref.typeName)
  | circular {resolved : Mapping DataType} {chain : List Text}
      (cycle : Cycle definitions resolved chain) : Defect definitions (.circular chain)

/-- The failure on account of a declared name for whose type there is a list or an object. -/
def Miskeyed (definitions : Mapping Json) (e : LoadFailure) : Prop :=
  ∃ name definition keyword, definitions.get? name = some definition ∧
    Definition.Miskeyed definition keyword ∧ e = .compoundKeyword keyword.typeName

/-- Nothing is wrong with declarations but that lists and objects may stand for types. -/
structure SoundButForTypes (definitions : Mapping Json) : Prop where
  definable : ∀ name definition, definitions.get? name = some definition →
    Definition.WellFormed definition ∨ ∃ keyword, Definition.Miskeyed definition keyword
  acyclic : ∀ name, ¬ OnCycle definitions name

section Failures

variable {document : Json} {definitions : Mapping Json} {e : LoadFailure}

theorem ofDocument_of_defines (h : Defines document definitions) :
    ofDocument document = .ok (ofDefinitions definitions) := by
  obtain ⟨entries, types, rfl, found, rfl⟩ := h
  simp only [ofDocument, found]

theorem ofDocument_of_undefined (h : ∀ definitions, ¬ Defines document definitions) :
    ofDocument document = .error .missingTypes := by
  unfold ofDocument
  split
  · rename_i entries
    split
    · rename_i types found
      exact absurd ⟨entries, types, rfl, found, rfl⟩ (h (Mapping.ofList types))
    · rfl
  · rfl

theorem loadDocument_of_defines (h : Defines document definitions) :
    loadDocument document = (ofDefinitions definitions).load.1 := by
  simp only [loadDocument, ofDocument_of_defines h, Except.mapError, bind, Except.bind]

theorem loadDocument_of_undefined (h : ∀ definitions, ¬ Defines document definitions) :
    loadDocument document = .error (.graph .missingTypes) := by
  simp only [loadDocument, ofDocument_of_undefined h, Except.mapError, bind, Except.bind]

theorem loads_of_loadDocument {types : Mapping DataType} (h : loadDocument document = .ok types) :
    ∃ l, Loads document l types := by
  by_cases defined : ∃ definitions, Defines document definitions
  · obtain ⟨definitions, defined⟩ := defined
    rw [loadDocument_of_defines defined] at h
    exact ⟨_, ofDocument_of_defines defined, h⟩
  · rw [loadDocument_of_undefined (not_exists.mp defined)] at h
    cases h

theorem Loads.resolves {l : Loader} {types : Mapping DataType} (loads : Loads document l types) :
    ∃ definitions ts l₁, l = ofDefinitions definitions ∧ l.Resolves l.declaredRefs ts l₁ ∧
      types = Mapping.ofList (l.definitions.keys.zip ts) := by
  obtain ⟨read, loaded⟩ := loads
  obtain ⟨definitions, rfl⟩ := ofDocument_eq_ok read
  obtain ⟨ts, l₁, resolves, rfl, -⟩ := (load_eq_ok_iff rfl).mp (Prod.ext loaded rfl)
  exact ⟨definitions, ts, l₁, rfl, resolves, rfl⟩

/-- References that are text fail only on account of what the declarations say. -/
theorem Fails.defect_or_miskeyed {l l' : Loader} {refs : List Json} (h : l.Fails refs e l')
    (linked : l.Linked refs) (text : ∀ ref ∈ refs, Definition.IsText ref) :
    (∃ g, e = .graph g ∧ Defect l.definitions g) ∨ Miskeyed l.definitions e := by
  obtain ⟨p, ref, turns, refuses⟩ := h.turnsTo
  cases refuses with
  | notText compound =>
      have noText : ¬ Definition.IsText ref := by
        rintro ⟨name, rfl⟩
        cases compound
      rcases turns.mentioned with direct | ⟨name, definition, d, declared, read, mentioned⟩
      · exact absurd (text ref direct) noText
      · exact .inl ⟨_, rfl, .reference declared read mentioned noText⟩
  | circular _ _ => exact .inl ⟨_, rfl, .circular (h.cycle linked rfl)⟩
  | malformed _ declared unread =>
      rw [turns.definitions] at declared
      rcases Definition.fault_or_miskeyed unread with ⟨g, rfl, fault⟩ | ⟨keyword, miskeyed, rfl⟩
      · exact .inl ⟨g, rfl, .definition declared unread fault⟩
      · exact .inr ⟨_, _, keyword, declared, miskeyed, rfl⟩

theorem defect_or_miskeyed_of_load (h : (ofDefinitions definitions).load.1 = .error e) :
    (∃ g, e = .graph g ∧ Defect definitions g) ∨ Miskeyed definitions e := by
  have fails := (load_eq_error_iff rfl).mp (Prod.ext h rfl)
  refine fails.defect_or_miskeyed (linked_of_idle rfl _) fun ref href => ?_
  obtain ⟨name, -, rfl⟩ := List.mem_map.mp href
  exact ⟨name, rfl⟩

theorem SoundButForTypes.not_defect (sound : SoundButForTypes definitions) (g : GraphError) :
    ¬ Defect definitions g := by
  rintro (⟨declared, unread, -⟩ | ⟨declared, read, mentioned, noText⟩ | ⟨cycle⟩)
  · rcases sound.definable _ _ declared with wellFormed | ⟨keyword, miskeyed⟩
    · obtain ⟨d, read, -⟩ := (Definition.wellFormed_iff _ _).mp wellFormed
      cases read.symm.trans unread
    · cases (miskeyed.ofJson_eq _).symm.trans unread
  · rcases sound.definable _ _ declared with wellFormed | ⟨keyword, miskeyed⟩
    · obtain ⟨d, read', text⟩ := (Definition.wellFormed_iff _ _).mp wellFormed
      cases read.symm.trans read'
      exact noText (text _ mentioned)
    · cases (miskeyed.ofJson_eq _).symm.trans read
  · obtain ⟨first, between, rfl, -⟩ := cycle.closed
    exact sound.acyclic first (cycle.onCycle first (by simp))

/-- If nothing else is wrong, a list or an object that stands for a type is what loading fails
for. -/
theorem SoundButForTypes.load_error (sound : SoundButForTypes definitions)
    (miskeyed : ∃ e, Miskeyed definitions e) :
    ∃ e, (ofDefinitions definitions).load.1 = .error e ∧ Miskeyed definitions e := by
  rcases h : (ofDefinitions definitions).load.1 with e | types
  · rcases defect_or_miskeyed_of_load h with ⟨g, -, defect⟩ | found
    · exact absurd defect (sound.not_defect g)
    · exact ⟨e, rfl, found⟩
  · obtain ⟨e, name, definition, keyword, declared, illFormed, -⟩ := miskeyed
    have loads := (load_ok_iff_sound rfl (coherent_ofDefinitions definitions)).mp ⟨types, h⟩
    exact absurd (loads.1 name definition declared) illFormed.not_wellFormed

end Failures

end TypeGraph.Loader
