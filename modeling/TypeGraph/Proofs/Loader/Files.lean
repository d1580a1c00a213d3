import TypeGraph.Loader.Source
import TypeGraph.Proofs.Loader.Documents
import TypeGraph.Proofs.Text.Utf8

/-!
Loaders from files. The bytes are decoded, the text is parsed, and the document is searched for its
definitions. What goes wrong with the text or with the document is a graph error; bytes that are no
UTF-8 are refused before there is a text to blame, and this error is no graph error.
-/

namespace TypeGraph.Loader

open Text

/-- The text of a file, with line ends made uniform. -/
def HoldsText (bytes : List UInt8) (text : List Char) : Prop :=
  ∃ written, bytes = Utf8.encode written ∧ text = unifyNewlines written

/-- The document of a file. -/
def HoldsDocument (bytes : List UInt8) (document : Json) : Prop :=
  ∃ text, HoldsText bytes text ∧ Json.parse text = .ok document

/-- What is wrong with a file, stage by stage, and the error that says so. -/
inductive FileFault (path : Text) (bytes : List UInt8) : LoadFailure → Prop
  | noText {fault : Utf8.Fault} (undecoded : Utf8.decode bytes = .error fault) :
      FileFault path bytes (.undecodable fault)
  | noDocument {text : List Char} {fault : Json.Parser.Fault} (holds : HoldsText bytes text)
      (unparsed : Json.parse text = .error fault) :
      FileFault path bytes (.graph (.invalidText path fault))
  | noDefinitions {document : Json} (holds : HoldsDocument bytes document)
      (undefined : ∀ definitions, ¬ Defines document definitions) :
      FileFault path bytes (.graph .missingTypes)

section

variable {path : Text} {bytes : List UInt8} {text : List Char} {document : Json}

theorem decodeFile_eq_ok_iff : decodeFile bytes = .ok text ↔ HoldsText bytes text := by
  constructor
  · intro decoded
    cases read : Utf8.decode bytes with
    | error fault => simp [decodeFile, read, Except.map] at decoded
    | ok written =>
        simp only [decodeFile, read, Except.map, Except.ok.injEq] at decoded
        exact ⟨written, Utf8.decode_eq_ok_iff.mp read, decoded.symm⟩
  · rintro ⟨written, encoded, rfl⟩
    simp only [decodeFile, Utf8.decode_eq_ok_iff.mpr encoded, Except.map]

/-- A file has at most one text. -/
theorem HoldsText.unique {other : List Char} (h : HoldsText bytes text)
    (h' : HoldsText bytes other) : text = other :=
  Except.ok.inj ((decodeFile_eq_ok_iff.mpr h).symm.trans (decodeFile_eq_ok_iff.mpr h'))

theorem HoldsText.ofFile_of_unparsed {fault : Json.Parser.Fault} (h : HoldsText bytes text)
    (unparsed : Json.parse text = .error fault) :
    ofFile path bytes = .error (.graph (.invalidText path fault)) := by
  rw [ofFile, decodeFile_eq_ok_iff.mpr h]
  change (Json.parse text).mapError _ >>= _ = _
  rw [unparsed]
  rfl

theorem HoldsDocument.ofFile_eq (h : HoldsDocument bytes document) :
    ofFile path bytes = (ofDocument document).mapError .graph := by
  obtain ⟨text, holds, parsed⟩ := h
  rw [ofFile, decodeFile_eq_ok_iff.mpr holds]
  change (Json.parse text).mapError _ >>= _ = _
  rw [parsed]
  rfl

theorem ofFile_of_undecoded {fault : Utf8.Fault} (undecoded : Utf8.decode bytes = .error fault) :
    ofFile path bytes = .error (.undecodable fault) := by
  rw [ofFile, decodeFile, undecoded]
  rfl

/-- A file that starts with a byte order mark is no JSON text, whatever follows the mark. -/
theorem ofFile_of_byteOrderMark (written : List Char) :
    ofFile path (Utf8.encode ('\uFEFF' :: written)) =
      .error (.graph (.invalidText path ⟨.byteOrderMark, 0, 1, 1⟩)) := by
  have holds : HoldsText (Utf8.encode ('\uFEFF' :: written)) ('\uFEFF' :: unifyNewlines written) :=
    ⟨_, rfl, by simp [unifyNewlines]⟩
  refine holds.ofFile_of_unparsed ?_
  have halted : Json.Parser.document ('\uFEFF' :: unifyNewlines written) =
      .error ⟨.byteOrderMark, '\uFEFF' :: unifyNewlines written⟩ := rfl
  rw [Json.parse, halted]
  change Except.error (Json.Parser.Fault.ofHalt _ _) = _
  simp [Json.Parser.Fault.ofHalt]

/-- A file either is good to the end of the three stages or fails at one of them. -/
theorem ofFile_cases (path : Text) (bytes : List UInt8) :
    (∃ document definitions, HoldsDocument bytes document ∧ Defines document definitions ∧
      ofFile path bytes = .ok (ofDefinitions definitions)) ∨
    ∃ e, FileFault path bytes e ∧ ofFile path bytes = .error e := by
  cases decoded : Utf8.decode bytes with
  | error fault => exact .inr ⟨_, .noText decoded, ofFile_of_undecoded decoded⟩
  | ok written =>
      have holds : HoldsText bytes (unifyNewlines written) :=
        ⟨written, Utf8.decode_eq_ok_iff.mp decoded, rfl⟩
      cases parsed : Json.parse (unifyNewlines written) with
      | error fault => exact .inr ⟨_, .noDocument holds parsed, holds.ofFile_of_unparsed parsed⟩
      | ok document =>
          have held : HoldsDocument bytes document := ⟨_, holds, parsed⟩
          by_cases defined : ∃ definitions, Defines document definitions
          · obtain ⟨definitions, defines⟩ := defined
            refine .inl ⟨document, definitions, held, defines, ?_⟩
            rw [held.ofFile_eq, ofDocument_of_defines defines]
            rfl
          · have undefined := not_exists.mp defined
            refine .inr ⟨_, .noDefinitions held undefined, ?_⟩
            rw [held.ofFile_eq, ofDocument_of_undefined undefined]
            rfl

theorem FileFault.ofFile_eq {e : LoadFailure} (fault : FileFault path bytes e) :
    ofFile path bytes = .error e := by
  cases fault with
  | noText undecoded => exact ofFile_of_undecoded undecoded
  | noDocument holds unparsed => exact holds.ofFile_of_unparsed unparsed
  | noDefinitions holds undefined =>
      rw [holds.ofFile_eq, ofDocument_of_undefined undefined]
      rfl

theorem ofFile_eq_error_iff {e : LoadFailure} :
    ofFile path bytes = .error e ↔ FileFault path bytes e := by
  constructor
  · intro refused
    rcases ofFile_cases path bytes with ⟨_, _, _, _, opened⟩ | ⟨e', fault, refused'⟩
    · cases opened.symm.trans refused
    · cases refused'.symm.trans refused
      exact fault
  · exact FileFault.ofFile_eq

theorem ofFile_eq_ok_iff {l : Loader} :
    ofFile path bytes = .ok l ↔ ∃ document definitions, HoldsDocument bytes document ∧
      Defines document definitions ∧ l = ofDefinitions definitions := by
  constructor
  · intro opened
    rcases ofFile_cases path bytes with ⟨document, definitions, held, defines, opened'⟩ |
      ⟨_, _, refused⟩
    · cases opened.symm.trans opened'
      exact ⟨document, definitions, held, defines, rfl⟩
    · cases opened.symm.trans refused
  · rintro ⟨document, definitions, held, defines, rfl⟩
    rw [held.ofFile_eq, ofDocument_of_defines defines]
    rfl

end

/-- A file opens exactly if its document has definitions, and then on these. It is refused for what
is wrong at the first stage that fails. If there is a text, that is a graph error, and its cause is
what keeps the text from being a document; otherwise the error is none. -/
theorem file_opens_or_says_why (path : Text) (bytes : List UInt8) :
    (∀ l, ofFile path bytes = .ok l ↔ ∃ document definitions, HoldsDocument bytes document ∧
      Defines document definitions ∧ l = ofDefinitions definitions) ∧
    (∀ e, ofFile path bytes = .error e ↔ FileFault path bytes e) ∧
    (∀ text, HoldsText bytes text → ∀ e, ofFile path bytes = .error e →
      ∃ g, e = .graph g ∧ ∀ fault, g.cause? = some fault ↔ Json.parse text = .error fault) ∧
    ((∀ text, ¬ HoldsText bytes text) ↔
      ∃ fault, ofFile path bytes = .error (.undecodable fault)) := by
  refine ⟨fun _ => ofFile_eq_ok_iff, fun _ => ofFile_eq_error_iff, ?text, ?noText⟩
  case text =>
    intro text holds e refused
    cases ofFile_eq_error_iff.mp refused with
    | noText undecoded =>
        obtain ⟨written, encoded, -⟩ := holds
        cases (Utf8.decode_eq_ok_iff.mpr encoded).symm.trans undecoded
    | noDocument holds' unparsed =>
        cases holds.unique holds'
        refine ⟨_, rfl, fun fault => ?_⟩
        rw [unparsed, Except.error.injEq, GraphError.cause?, Option.some.injEq]
    | noDefinitions held _ =>
        obtain ⟨text', holds', parsed⟩ := held
        cases holds.unique holds'
        exact ⟨_, rfl, fun fault => by simp [GraphError.cause?, parsed]⟩
  case noText =>
    constructor
    · intro none
      cases decoded : Utf8.decode bytes with
      | error fault => exact ⟨fault, ofFile_of_undecoded decoded⟩
      | ok written => exact absurd ⟨written, Utf8.decode_eq_ok_iff.mp decoded, rfl⟩ (none _)
    · rintro ⟨fault, refused⟩ text ⟨written, encoded, -⟩
      cases ofFile_eq_error_iff.mp refused with
      | noText undecoded => cases (Utf8.decode_eq_ok_iff.mpr encoded).symm.trans undecoded

/-- A byte that starts no character. -/
theorem stray_byte_not_graph_error :
    ¬ ∀ path bytes e, ofFile path bytes = .error e → ∃ g, e = .graph g := by
  intro blamed
  obtain ⟨g, same⟩ := blamed "types.json" [0xFF] (.undecodable ⟨0, 0xFF, 1, .invalidStart⟩)
    (ofFile_of_undecoded (by simp [Utf8.decode, Utf8.decodeFrom, Utf8.Shape.ofFirst]))
  cases same

end TypeGraph.Loader
