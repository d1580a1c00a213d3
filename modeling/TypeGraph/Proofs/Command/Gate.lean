import TypeGraph.Proofs.Command.Output
import TypeGraph.Proofs.Command.Requests
import TypeGraph.Proofs.Loader.Documents
import TypeGraph.Proofs.Unresolved

/-!
The check for unresolved types. A strict run succeeds exactly if the document loads, the report can
be sent out and the declarations leave no name open. A run that fails on account of the declarations
names all that they leave open, and one that fails on account of the report says nothing.
-/

namespace TypeGraph

theorem Loader.Loads.unresolvedNames {document : Json} {l : Loader} {types : Mapping DataType}
    (loads : Loads document l types) :
    (∀ name, name ∈ Report.unresolvedNames types ↔
      Declarations.LeftOpen l.definitions name) ∧
    (Report.unresolvedNames types = [] ↔ Declarations.Complete l.definitions) := by
  obtain ⟨_, ts, l₁, rfl, resolves, rfl⟩ := loads.resolves
  exact ⟨fun _ => Report.mem_unresolvedNames_iff_leftOpen resolves,
    Report.unresolvedNames_eq_nil_iff resolves⟩

theorem Loader.ofFile_of_parse {path : Text} {bytes : List UInt8} {text : List Char}
    {document : Json} (decoded : Text.decodeFile bytes = .ok text)
    (parsed : Json.parse text = .ok document) :
    ofFile path bytes = (ofDocument document).mapError .graph := by
  simp [ofFile, decoded, parsed, bind, Except.bind, Except.mapError]

namespace Command

open Loader Declarations

section Run

variable {ws : Workspace} {r : Request} {c : Config}

theorem Run.failed_ne_success (events : List Log.Event) (e : LoadFailure) :
    (Run.failed events e).ending ≠ .success := by
  cases e <;> exact nofun

theorem Run.gate_eq_success_iff (strict : Bool) (names : List Text) :
    (Run.gate strict names).2 = .success ↔ (strict = true → names = []) := by
  cases strict <;> cases names <;> simp [Run.gate]

theorem Run.gate_eq_failure {strict : Bool} {names : List Text}
    (h : (Run.gate strict names).2 ≠ .success) :
    (Run.gate strict names).2 = .failure ("Unresolved types: " ++ Text.intercalate ", " names) := by
  unfold Run.gate at h ⊢
  split
  · rfl
  · rename_i lenient
    exact absurd (by rw [if_neg lenient]) h

theorem Run.ofRequest_of_loads {document : Json} {l : Loader} {types : Mapping DataType}
    (holds : ws.Holds r.document document) (loads : Loads document l types) :
    Run.ofRequest ws r c = .deliver ws r c l.load.2.events types := by
  obtain ⟨bytes, text, read, decoded, parsed⟩ := holds
  obtain ⟨opened, loaded⟩ := loads
  have whole : l.load = (.ok types, l.load.2) := Prod.ext loaded rfl
  simp only [Run.ofRequest, read, ofFile_of_parse decoded parsed, opened, Except.mapError]
  rw [whole]

theorem Run.ofRequest_of_error {document : Json} (holds : ws.Holds r.document document)
    {e : LoadFailure} (failed : loadDocument document = .error e) :
    ∃ events, Run.ofRequest ws r c = .failed events e := by
  obtain ⟨bytes, text, read, decoded, parsed⟩ := holds
  simp only [Run.ofRequest, read, ofFile_of_parse decoded parsed]
  by_cases defined : ∃ definitions, Defines document definitions
  · obtain ⟨definitions, defined⟩ := defined
    rw [loadDocument_of_defines defined] at failed
    have whole : (ofDefinitions definitions).load = (.error e, _) := Prod.ext failed rfl
    rw [ofDocument_of_defines defined]
    dsimp only [Except.mapError]
    rw [whole]
    exact ⟨_, rfl⟩
  · rw [loadDocument_of_undefined (not_exists.mp defined)] at failed
    cases failed
    rw [ofDocument_of_undefined (not_exists.mp defined)]
    exact ⟨[], rfl⟩

theorem Run.loads_or_fails {document : Json} (holds : ws.Holds r.document document) :
    (∃ l types, Loads document l types) ∨
      ∃ events e, Run.ofRequest ws r c = .failed events e := by
  cases h : loadDocument document with
  | error e =>
      obtain ⟨events, failed⟩ := Run.ofRequest_of_error (c := c) holds h
      exact .inr ⟨events, e, failed⟩
  | ok types =>
      obtain ⟨l, loads⟩ := loads_of_loadDocument h
      exact .inl ⟨l, types, loads⟩

section Loaded

variable {document : Json} {l : Loader} {types : Mapping DataType}
  (writable : ∀ location, r.output = some location → ws.writeFault? location = none)
  (holds : ws.Holds r.document document) (loads : Loads document l types)

include writable holds loads

theorem Run.ending_of_encodable
    (encodable : (sent ws r.output.isSome (Report.render types c)).Encodable) :
    (Run.ofRequest ws r c).ending =
      (Run.gate (Run.strict r c) (Report.unresolvedNames types)).2 := by
  obtain ⟨content, encoded⟩ := encodable
  rw [Run.ofRequest_of_loads holds loads, Run.deliver_of_sent writable encoded]

theorem Run.ofRequest_of_not_encodable
    (unencodable : ¬ (sent ws r.output.isSome (Report.render types c)).Encodable) :
    ∃ fault : Text.EncodingFault,
      fault.Meets (sent ws r.output.isSome (Report.render types c)) ∧
      Run.ofRequest ws r c =
        ⟨l.load.2.events, "", r.output.map (·, ""), .uncaught (.unencodable fault)⟩ := by
  rw [Run.ofRequest_of_loads holds loads]
  exact Run.deliver_of_not_encodable writable unencodable _

theorem Run.ending_eq_success_iff :
    (Run.ofRequest ws r c).ending = .success ↔
      (Run.strict r c = true → Complete l.definitions) ∧
        (sent ws r.output.isSome (Report.render types c)).Encodable := by
  by_cases encodable : (sent ws r.output.isSome (Report.render types c)).Encodable
  · rw [Run.ending_of_encodable writable holds loads encodable, Run.gate_eq_success_iff,
      loads.unresolvedNames.2]
    exact (and_iff_left encodable).symm
  · obtain ⟨fault, -, broken⟩ := Run.ofRequest_of_not_encodable writable holds loads encodable
    rw [broken]
    exact ⟨nofun, fun h => absurd h.2 encodable⟩

end Loaded

end Run

section Outcome

variable (ws : Workspace) (settings : Log.Settings) (run : Run)

theorem Outcome.exitCode_eq_zero_iff :
    (Outcome.ofRun ws settings run).exitCode = 0 ↔ run.ending = .success := by
  unfold Outcome.ofRun
  cases run.ending <;> simp

theorem Outcome.exitCode_eq_one (h : (Outcome.ofRun ws settings run).exitCode ≠ 0) :
    (Outcome.ofRun ws settings run).exitCode = 1 := by
  unfold Outcome.ofRun at h ⊢
  cases ending : run.ending with
  | success => simp [ending] at h
  | failure _ | uncaught _ => rfl

theorem Outcome.ofRun_failure {message : Text} (h : run.ending = .failure message) :
    (Outcome.ofRun ws settings run).uncaught = none ∧
      (Outcome.ofRun ws settings run).stderr =
        (settings.write (run.events.map Log.Event.entry)).spelled ++ errorText ws message := by
  unfold Outcome.ofRun
  rw [h]
  exact ⟨rfl, rfl⟩

end Outcome

/-- The report on types that options ask for. -/
def statedReport (options : List (Text × Json)) (types : Mapping DataType) : Text :=
  Report.renderWith ⟨(Config.stated options .showImports).holds,
    (Config.stated options .showDocumentation).holds⟩ types

/-- What a command line sends out of the report that its options ask for. -/
def delivered (ws : Workspace) (p : Parsed) (options : List (Text × Json))
    (types : Mapping DataType) : Text :=
  sent ws (p.value? .output).isSome (statedReport options types)

/-- Unresolved types are an error, by the command line or by its options. -/
def Strict (p : Parsed) (options : List (Text × Json)) : Prop :=
  p.has .failOnUnresolved = true ∨ (Config.stated options .failOnUnresolved).holds = true

/-- How a run ends, given its document and what its command line and its options say. -/
structure Gated (ws : Workspace) (p : Parsed) (document : Json) (options : List (Text × Json))
    (o : Outcome) : Prop where
  succeeds : o.exitCode = 0 ↔
    ∃ l types, Loads document l types ∧ (Strict p options → Complete l.definitions) ∧
      (delivered ws p options types).Encodable
  fails : o.exitCode ≠ 0 → o.exitCode = 1
  names : ∀ l types, Loads document l types → (delivered ws p options types).Encodable →
    o.exitCode ≠ 0 → o.uncaught = none ∧
      ∃ names : List Text, names.Nodup ∧ (∀ name, name ∈ names ↔ LeftOpen l.definitions name) ∧
        EndsWith ws o.stderr ("Error: Unresolved types: " ++ Text.intercalate ", " names ++ "\n")
  breaks : ∀ l types, Loads document l types → ¬ (delivered ws p options types).Encodable →
    ∃ fault : Text.EncodingFault, fault.Meets (delivered ws p options types) ∧
      o.uncaught = some (.unencodable fault) ∧ o.stdout = "" ∧
      ∀ location content, o.written = some (location, content) → content = ""

theorem render_eq_statedReport {c : Config} {options : List (Text × Json)}
    (values : ∀ setting, c.get setting = Config.stated options setting)
    (types : Mapping DataType) : Report.render types c = statedReport options types := by
  have imports : c.showImports = Config.stated options .showImports := values .showImports
  have documentation : c.showDocumentation = Config.stated options .showDocumentation :=
    values .showDocumentation
  rw [Report.render, Report.Options.ofConfig, imports, documentation, statedReport]

/-- A run that is strict, by the command line or by the configuration, succeeds only on complete
declarations, and otherwise names what is missing. In any run the report has to have an encoding. -/
theorem run_gates_unresolved {ws : Workspace} {args : List String} {p : Parsed} {document : Json}
    {options : List (Text × Json)} (strips : Text.LeavesOutControls ws.withoutControls)
    (read : Parsed.read args = .ok p) (posed : WellPosed ws p document options) :
    Gated ws p document options (run ws args) := by
  obtain ⟨r, c, settings, carried, served, flag, toFile, values⟩ := posed.run_eq read
  have configured : c.failOnUnresolved = Config.stated options .failOnUnresolved :=
    values .failOnUnresolved
  have strict : Run.strict r c = true ↔ Strict p options := by
    rw [Run.strict, Bool.or_eq_true, flag, configured, Strict]
  have sends (types : Mapping DataType) :
      sent ws r.output.isSome (Report.render types c) = delivered ws p options types := by
    rw [render_eq_statedReport values, toFile, delivered]
  rw [carried]
  refine ⟨?succeeds, Outcome.exitCode_eq_one ws settings _, ?names, ?breaks⟩
  case succeeds =>
    rw [Outcome.exitCode_eq_zero_iff]
    constructor
    · intro success
      rcases Run.loads_or_fails served.document with ⟨l, types, loads⟩ | ⟨events, e, failed⟩
      · rw [Run.ending_eq_success_iff served.output served.document loads, strict, sends] at success
        exact ⟨l, types, loads, success⟩
      · rw [failed] at success
        exact absurd success (Run.failed_ne_success events e)
    · rintro ⟨l, types, loads, success⟩
      rwa [Run.ending_eq_success_iff served.output served.document loads, strict, sends]
  case names =>
    intro l types loads encodable failed
    rw [← sends] at encodable
    have ending := Run.ending_of_encodable served.output served.document loads encodable
    rw [Ne, Outcome.exitCode_eq_zero_iff, ending] at failed
    have failure := ending.trans (Run.gate_eq_failure failed)
    obtain ⟨caught, stderr⟩ := Outcome.ofRun_failure ws settings _ failure
    refine ⟨caught, Report.unresolvedNames types, Report.nodup_unresolvedNames types,
      loads.unresolvedNames.1, ?_⟩
    rw [stderr]
    exact endsWith_errorText strips _ _
  case breaks =>
    intro l types loads unencodable
    rw [← sends] at unencodable ⊢
    obtain ⟨fault, meets, broken⟩ :=
      Run.ofRequest_of_not_encodable served.output served.document loads unencodable
    refine ⟨fault, meets, ?_⟩
    rw [broken]
    refine ⟨rfl, rfl, fun location content written => ?_⟩
    obtain ⟨_, -, same⟩ := Option.map_eq_some_iff.mp written
    exact (Prod.mk.inj same).2.symm

/-- A reference below a composition without properties, under a configuration that makes the run
strict. -/
theorem configured_run_gates_unresolved :
    let ws := Workspace.ofTexts [
      ("graph.json",
        "\x7b\"types\":\x7b\"A\":\x7b\"type\":\"anyOf\",\"items\":[\"B\"]\x7d\x7d\x7d"),
      ("strict.json", "\x7b\"fail_on_unresolved\":\"yes\"\x7d")]
    let args := ["-c", "strict.json", "graph.json"]
    let p : Parsed := ⟨[(.config, "strict.json")], ["graph.json"]⟩
    let document : Json := .obj [("types", .obj [
      ("A", .obj [("type", .str "anyOf"), ("items", .arr [.str "B"])])])]
    let options : List (Text × Json) := [("fail_on_unresolved", .str "yes")]
    Text.LeavesOutControls ws.withoutControls ∧ Parsed.read args = .ok p ∧
      WellPosed ws p document options ∧ Gated ws p document options (run ws args) := by
  intro ws args p document options
  have strips : Text.LeavesOutControls ws.withoutControls := Text.leavesOutControls_dropControls
  have read : Parsed.read args = .ok p := by with_unfolding_all rfl
  have graph : ws.Holds ⟨"/", ["graph.json"]⟩ document :=
    Workspace.holds_ofTexts rfl (by with_unfolding_all rfl) (by with_unfolding_all rfl)
  have config : ws.Holds ⟨"/", ["strict.json"]⟩ (.obj options) :=
    Workspace.holds_ofTexts rfl (by with_unfolding_all rfl) (by with_unfolding_all rfl)
  have graphPlace : locate ws "graph.json" = .ok ⟨"/", ["graph.json"]⟩ := rfl
  have configPlace : locate ws "strict.json" = .ok ⟨"/", ["strict.json"]⟩ := rfl
  have posed : WellPosed ws p document options := by
    refine ⟨rfl, ⟨_, _, rfl, graphPlace, graph⟩, ?defaults, ?config, ?output, ?settings, ?level⟩
    case defaults =>
      intro absent
      cases absent
    case config =>
      intro path given
      obtain rfl : path = "strict.json" := (Option.some.inj given).symm
      exact ⟨_, configPlace, config⟩
    case output =>
      intro path given
      cases given
    case settings =>
      intro e he
      obtain rfl := List.mem_singleton.mp he
      exact ⟨.failOnUnresolved, rfl⟩
    case level => exact ⟨"WARNING", rfl, by decide⟩
  exact ⟨strips, read, posed, run_gates_unresolved strips read posed⟩

/-- A surrogate in a summary fails a lenient run on complete declarations. -/
theorem surrogate_fails_run :
    let ws := Workspace.ofTexts [
      ("graph.json", "\x7b\"types\":\x7b\"A\":\x7b\"summary\":\"\\ud800\"\x7d\x7d\x7d")]
    let p : Parsed := ⟨[], ["graph.json"]⟩
    let document : Json := .obj [("types", .obj [
      ("A", .obj [("summary", .str (.ofPoint (.surrogate 0)))])])]
    Parsed.read ["graph.json"] = .ok p ∧ WellPosed ws p document [] ∧
      (∃ l types, Loads document l types ∧ Complete l.definitions) ∧
      (run ws ["graph.json"]).exitCode = 1 := by
  intro ws p document
  have read : Parsed.read ["graph.json"] = .ok p := by with_unfolding_all rfl
  have holds : ws.Holds ⟨"/", ["graph.json"]⟩ document :=
    Workspace.holds_ofTexts rfl (by with_unfolding_all rfl) (by with_unfolding_all rfl)
  have posed : WellPosed ws p document [] := by
    refine ⟨rfl, ⟨_, _, rfl, rfl, holds⟩, fun _ => rfl, ?config, ?output, ?settings, ?level⟩
    case config =>
      intro path given
      cases given
    case output =>
      intro path given
      cases given
    case settings => exact fun e he => absurd he List.not_mem_nil
    case level => exact ⟨"WARNING", rfl, by decide⟩
  have opened : ofDocument document = .ok _ := rfl
  let types : Mapping DataType := Mapping.ofList [
    ("A", .object 0 ⟨none, .bool false, some ⟨.str (.ofPoint (.surrogate 0)), .null⟩⟩ "A" "" [])]
  have loads : Loads document _ types := ⟨opened, rfl⟩
  have report : Report.render types .default =
      ".A (object)\n  summary: " ++ Text.ofPoint (.surrogate 0) ++ "\n  imports: A\n\n" := rfl
  have asked : Invocation.ofArguments ws ["graph.json"] =
      .ok (.run ⟨none, none, false, ⟨"/", ["graph.json"]⟩⟩) := by
    rw [ofArguments_eq_run_iff read]
    exact ⟨rfl, rfl, rfl, ⟨_, rfl, rfl⟩, rfl⟩
  refine ⟨read, posed, ⟨_, _, loads, loads.unresolvedNames.2.mp rfl⟩, ?_⟩
  obtain ⟨settings, -, carried⟩ :=
    run_eq_ofRun (c := .default) asked rfl ⟨"WARNING", rfl, by decide⟩
  rw [carried]
  apply Outcome.exitCode_eq_one
  rw [Ne, Outcome.exitCode_eq_zero_iff,
    Run.ending_eq_success_iff (writable_of_none rfl) holds loads]
  rintro ⟨-, encodable⟩
  have shown : sent ws false (Report.render types .default) = Report.render types .default :=
    Text.leavesOutControls_dropControls.unescaped _ (by rw [report]; decide)
  have surrogate : CodePoint.surrogate 0 ∈ (Report.render types .default).points := by
    rw [report]
    decide
  rw [Option.isSome_none, shown, Text.encodable_iff] at encodable
  exact encodable _ surrogate ⟨0, rfl⟩

end Command
end TypeGraph
