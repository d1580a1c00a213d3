import TypeGraph.Proofs.Command.Gate

/-!
Runs on documents that do not load. Whatever is wrong with a document, the command says so in an
error message, but for a list or an object in place of a type, on which it ends without a message.
-/

namespace TypeGraph.Command

open Loader

/-- A document that does not load has a defect, which is what the error and the command's message
say, unless a list or an object stands for a type. Then the error is no graph error and the command
has no message for it, and this comes about whenever nothing else is wrong with the document. -/
theorem malformed_document_rejected (document : Json) :
    (∀ e, loadDocument document = .error e →
      ((∀ definitions, ¬ Defines document definitions) ∧ e = .graph .missingTypes) ∨
      ∃ definitions, Defines document definitions ∧
        ((∃ g, e = .graph g ∧ Defect definitions g) ∨ Miskeyed definitions e)) ∧
    (∀ definitions, Defines document definitions → SoundButForTypes definitions →
      (∃ e, Miskeyed definitions e) →
      ∃ e, loadDocument document = .error e ∧ Miskeyed definitions e) ∧
    ∀ (ws : Workspace) (r : Request) (c : Config), ws.Holds r.document document →
      (∀ g, loadDocument document = .error (.graph g) →
        (Run.ofRequest ws r c).ending = .failure g.message) ∧
      ∀ definitions e, Miskeyed definitions e → loadDocument document = .error e →
        (Run.ofRequest ws r c).ending = .uncaught (.load e) := by
  refine ⟨?cause, ?miskeyed, ?run⟩
  case cause =>
    intro e failed
    by_cases defined : ∃ definitions, Defines document definitions
    · obtain ⟨definitions, defined⟩ := defined
      rw [loadDocument_of_defines defined] at failed
      exact .inr ⟨definitions, defined, defect_or_miskeyed_of_load failed⟩
    · rw [loadDocument_of_undefined (not_exists.mp defined)] at failed
      cases failed
      exact .inl ⟨not_exists.mp defined, rfl⟩
  case miskeyed =>
    intro definitions defined sound miskeyed
    rw [loadDocument_of_defines defined]
    exact sound.load_error miskeyed
  case run =>
    intro ws r c holds
    constructor
    · intro g failed
      obtain ⟨events, run⟩ := Run.ofRequest_of_error (c := c) holds failed
      rw [run]
      rfl
    · rintro definitions _ ⟨_, _, _, _, _, rfl⟩ failed
      obtain ⟨events, run⟩ := Run.ofRequest_of_error (c := c) holds failed
      rw [run]
      rfl

/-- A list that stands for a type. -/
theorem list_for_type_not_graph_error :
    ¬ ∀ document e, loadDocument document = .error e → ∃ g, e = .graph g := by
  intro rejected
  obtain ⟨g, same⟩ :=
    rejected (.obj [("types", .obj [("A", .obj [("type", .arr [])])])]) _ rfl
  cases same

end TypeGraph.Command
