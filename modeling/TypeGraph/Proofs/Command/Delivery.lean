import TypeGraph.Proofs.Command.Arguments
import TypeGraph.Proofs.Command.Gate

/-!
What becomes of a report. If the document does not load, nothing is printed or written; if it loads
and the report has an encoding, the whole report is delivered once, to the output stream or to the
file that is asked for, and the check for unresolved types only comes after that. The stream gets
the text of the file, but for control sequences where it is no terminal.
-/

namespace TypeGraph.Command

open Loader

/-- Loading the file at a place gives these types. -/
def Workspace.LoadsTypes (ws : Workspace) (location : Location) (types : Mapping DataType) : Prop :=
  ∃ bytes l, ws.read location = .ok bytes ∧ Loader.ofFile location.text bytes = .ok l ∧
    l.load.1 = .ok types

theorem Workspace.Holds.loadsTypes {ws : Workspace} {location : Location} {document : Json}
    {l : Loader} {types : Mapping DataType} (holds : ws.Holds location document)
    (loads : Loads document l types) : ws.LoadsTypes location types := by
  obtain ⟨bytes, text, read, decoded, parsed⟩ := holds
  refine ⟨bytes, l, read, ?_, loads.2⟩
  rw [ofFile_of_parse decoded parsed, loads.1]
  rfl

/-- A text is delivered once: on the output stream, or in the file that is asked for if it can be
written. -/
structure Delivers (ws : Workspace) (output : Option Location) (text : Text) (o : Outcome) :
    Prop where
  printed : output = none → Shows ws ws.terminalOutput text o.stdout ∧ o.written = none
  saved : ∀ location, output = some location → ws.writeFault? location = none →
    o.stdout = "" ∧ ∃ content : String, o.written = some (location, content) ∧ content = text
  unwritable : ∀ location fault, output = some location → ws.writeFault? location = some fault →
    o.stdout = "" ∧ o.written = none

theorem Delivers.text_eq {ws : Workspace} {output : Option Location} {text : Text} {o : Outcome}
    (delivers : Delivers ws output text o) {location : Location} {content : String}
    (h : o.written = some (location, content)) : content = text := by
  cases asked : output with
  | none => simp [(delivers.printed asked).2] at h
  | some place =>
      cases fault : ws.writeFault? place with
      | none =>
          obtain ⟨-, content', written, same⟩ := delivers.saved place asked fault
          rw [written] at h
          rw [← same, (Prod.mk.inj (Option.some.inj h)).2]
      | some e => simp [(delivers.unwritable place e asked fault).2] at h

section Run

variable {ws : Workspace} {r : Request} {c : Config}

/-- A run that ends before there is a report. -/
def Run.Fruitless (run : Run) : Prop := run.printed = "" ∧ run.written = none

theorem Run.fruitless_failed (events : List Log.Event) (e : LoadFailure) :
    (Run.failed events e).Fruitless := by
  cases e <;> exact ⟨rfl, rfl⟩

theorem Run.fruitless_ofRequest (unloadable : ∀ types, ¬ ws.LoadsTypes r.document types) :
    (Run.ofRequest ws r c).Fruitless := by
  unfold Run.ofRequest
  cases read : ws.read r.document with
  | error fault => exact ⟨rfl, rfl⟩
  | ok bytes =>
      cases opened : Loader.ofFile r.document.text bytes with
      | error e => simpa only [opened] using Run.fruitless_failed [] e
      | ok l =>
          rcases loaded : l.load with ⟨e | types, l'⟩
          · simpa only [opened, loaded] using Run.fruitless_failed l'.events e
          · exact absurd ⟨bytes, l, read, opened, congrArg Prod.fst loaded⟩ (unloadable types)

theorem Run.ofRequest_of_loadsTypes {types : Mapping DataType}
    (loads : ws.LoadsTypes r.document types) :
    ∃ events, Run.ofRequest ws r c = .deliver ws r c events types := by
  obtain ⟨bytes, l, read, opened, loaded⟩ := loads
  have whole : l.load = (.ok types, l.load.2) := Prod.ext loaded rfl
  refine ⟨l.load.2.events, ?_⟩
  simp only [Run.ofRequest, read, opened]
  rw [whole]

end Run

section Outcome

variable (ws : Workspace) (settings : Log.Settings) (run : Run)

theorem Outcome.stdout_ofRun : (Outcome.ofRun ws settings run).stdout = run.printed := by
  unfold Outcome.ofRun
  cases run.ending <;> rfl

theorem Outcome.written_ofRun : (Outcome.ofRun ws settings run).written = run.written := by
  unfold Outcome.ofRun
  cases run.ending <;> rfl

variable {r : Request} {c : Config} {types : Mapping DataType}

/-- Wherever the report goes, it goes there before the check. -/
theorem Run.deliver_delivers (strips : Text.LeavesOutControls ws.withoutControls)
    (encodable : (Report.render types c).Encodable) (events : List Log.Event) :
    Delivers ws r.output (Report.render types c)
      (Outcome.ofRun ws settings (Run.deliver ws r c events types)) := by
  obtain ⟨content, encoded⟩ := encodable_sent strips encodable r.output.isSome
  constructor
  · intro printed
    rw [Outcome.stdout_ofRun, Outcome.written_ofRun,
      Run.deliver_of_sent (writable_of_none printed) encoded]
    simp only [printed, if_true]
    rw [printed] at encoded
    rw [← encoded]
    exact ⟨shows_shown strips _ _, rfl⟩
  · intro location saved reached
    have writable : ∀ place, r.output = some place → ws.writeFault? place = none := by
      rintro place asked
      rwa [Option.some.inj (asked.symm.trans saved)]
    rw [Outcome.stdout_ofRun, Outcome.written_ofRun, Run.deliver_of_sent writable encoded]
    rw [saved] at encoded ⊢
    exact ⟨rfl, content, rfl, encoded.symm⟩
  · intro location fault saved unwritable
    rw [Outcome.stdout_ofRun, Outcome.written_ofRun, Run.deliver_of_fault saved unwritable]
    exact ⟨rfl, rfl⟩

end Outcome

/-- A run delivers all of its report or nothing, and fails on unresolved types only afterwards. -/
structure AllOrNothing (ws : Workspace) (r : Request) (c : Config) (o : Outcome) : Prop where
  nothing : (∀ types, ¬ ws.LoadsTypes r.document types) → o.stdout = "" ∧ o.written = none
  whole : ∀ types, ws.LoadsTypes r.document types → (Report.render types c).Encodable →
    Delivers ws r.output (Report.render types c) o
  checked : ∀ types, ws.LoadsTypes r.document types → (Report.render types c).Encodable →
    (∀ location, r.output = some location → ws.writeFault? location = none) →
    (o.exitCode = 0 ↔ (Run.strict r c = true → Report.unresolvedNames types = [])) ∧
      (o.exitCode ≠ 0 → o.exitCode = 1)

theorem Run.ofRequest_allOrNothing {ws : Workspace}
    (strips : Text.LeavesOutControls ws.withoutControls) (settings : Log.Settings) (r : Request)
    (c : Config) : AllOrNothing ws r c (.ofRun ws settings (Run.ofRequest ws r c)) := by
  refine ⟨?nothing, ?whole, ?checked⟩
  case nothing =>
    intro unloadable
    rw [Outcome.stdout_ofRun, Outcome.written_ofRun]
    exact Run.fruitless_ofRequest unloadable
  case whole =>
    intro types loads encodable
    obtain ⟨events, delivered⟩ := Run.ofRequest_of_loadsTypes (c := c) loads
    rw [delivered]
    exact Run.deliver_delivers ws settings strips encodable events
  case checked =>
    intro types loads encodable writable
    obtain ⟨events, delivered⟩ := Run.ofRequest_of_loadsTypes (c := c) loads
    obtain ⟨content, encoded⟩ := encodable_sent strips encodable r.output.isSome
    refine ⟨?_, Outcome.exitCode_eq_one ws settings _⟩
    rw [Outcome.exitCode_eq_zero_iff, delivered, Run.deliver_of_sent writable encoded,
      Run.gate_eq_success_iff]

/-- The report is delivered whole and once, or not at all. The file of a run gets the text that the
same run shows without its output. -/
theorem report_delivered_whole {ws : Workspace} {args : List String} {p : Parsed} {r : Request}
    {c : Config} (strips : Text.LeavesOutControls ws.withoutControls)
    (read : Parsed.read args = .ok p) (asked : Invocation.ofArguments ws args = .ok (.run r))
    (configured : readConfig ws r = .ok c) (level : NamesLevel c) :
    AllOrNothing ws r c (run ws args) ∧
      (∃ args', Parsed.read args' = .ok p.withoutOutput) ∧
      ∀ args', Parsed.read args' = .ok p.withoutOutput →
        AllOrNothing ws { r with output := none } c (run ws args') ∧
        ∀ types, ws.LoadsTypes r.document types → (Report.render types c).Encodable →
          ∀ location content, (run ws args).written = some (location, content) →
            Shows ws ws.terminalOutput content (run ws args').stdout := by
  have whole : AllOrNothing ws r c (run ws args) := by
    obtain ⟨settings, -, carried⟩ := run_eq_ofRun asked configured level
    rw [carried]
    exact Run.ofRequest_allOrNothing strips settings r c
  refine ⟨whole, Parsed.exists_read_withoutOutput read, fun args' read' => ?_⟩
  have printing : AllOrNothing ws { r with output := none } c (run ws args') := by
    obtain ⟨settings, -, carried⟩ :=
      run_eq_ofRun (ofArguments_withoutOutput read asked read') configured level
    rw [carried]
    exact Run.ofRequest_allOrNothing strips settings _ c
  refine ⟨printing, fun types loads encodable location content written => ?_⟩
  rw [(whole.whole types loads encodable).text_eq written]
  exact ((printing.whole types loads encodable).printed rfl).1

/-- A strict run on an unresolved reference, with its report in a file. -/
theorem strict_report_delivered_to_file :
    let ws := Workspace.ofTexts [
      ("graph.json",
        "\x7b\"types\":\x7b\"A\":\x7b\"type\":\"anyOf\",\"items\":[\"B\"]\x7d\x7d\x7d")]
    let args := ["--output=report.txt", "--fail-on-unresolved", "--", "graph.json"]
    let p : Parsed := ⟨[(.output, "report.txt"), (.failOnUnresolved, "")], ["graph.json"]⟩
    let r : Request := ⟨none, some ⟨"/", ["report.txt"]⟩, true, ⟨"/", ["graph.json"]⟩⟩
    (Text.LeavesOutControls ws.withoutControls ∧ Parsed.read args = .ok p ∧
      Invocation.ofArguments ws args = .ok (.run r) ∧ readConfig ws r = .ok .default ∧
      NamesLevel .default) ∧
    AllOrNothing ws r .default (run ws args) ∧
      (∃ args', Parsed.read args' = .ok p.withoutOutput) ∧
      ∀ args', Parsed.read args' = .ok p.withoutOutput →
        AllOrNothing ws { r with output := none } .default (run ws args') ∧
        ∀ types, ws.LoadsTypes r.document types → (Report.render types .default).Encodable →
          ∀ location content, (run ws args).written = some (location, content) →
            Shows ws ws.terminalOutput content (run ws args').stdout := by
  intro ws args p r
  have plain : p.Plain := by simp [p, Parsed.Plain, Flag.takesValue]
  have read : Parsed.read args = .ok p := Parsed.read_arguments plain
  have asked : Invocation.ofArguments ws args = .ok (.run r) := by
    rw [ofArguments_eq_run_iff read]
    exact ⟨rfl, rfl, rfl, ⟨_, rfl, rfl⟩, rfl⟩
  have level : NamesLevel .default := ⟨"WARNING", rfl, by decide⟩
  have strips : Text.LeavesOutControls ws.withoutControls := Text.leavesOutControls_dropControls
  exact ⟨⟨strips, read, asked, rfl, level⟩, report_delivered_whole strips read asked rfl level⟩

/-- What is printed is not always the whole report: without a terminal a control sequence in a
summary is lost. -/
theorem printed_report_loses_controls :
    let ws := Workspace.ofTexts [
      ("graph.json", "\x7b\"types\":\x7b\"A\":\x7b\"summary\":\"\\u001b[0m\"\x7d\x7d\x7d")]
    let types : Mapping DataType := Mapping.ofList [
      ("A", .object 0 ⟨none, .bool false, some ⟨.str "\x1b[0m", .null⟩⟩ "A" "" [])]
    ws.LoadsTypes ⟨"/", ["graph.json"]⟩ types ∧
      Report.render types .default = ".A (object)\n  summary: \x1b[0m\n  imports: A\n\n" ∧
      (run ws ["graph.json"]).stdout = ".A (object)\n  summary: \n  imports: A\n\n" := by
  intro ws types
  have holds : ws.Holds ⟨"/", ["graph.json"]⟩
      (.obj [("types", .obj [("A", .obj [("summary", .str "\x1b[0m")])])]) :=
    Workspace.holds_ofTexts rfl (by with_unfolding_all rfl) (by with_unfolding_all rfl)
  have opened : ofDocument (.obj [("types", .obj [("A", .obj [("summary", .str "\x1b[0m")])])]) =
      .ok _ := rfl
  have loads : Loads _ _ types := ⟨opened, rfl⟩
  have report : Report.render types .default =
      ".A (object)\n  summary: \x1b[0m\n  imports: A\n\n" := rfl
  have read : Parsed.read ["graph.json"] = .ok ⟨[], ["graph.json"]⟩ := by
    simp [Parsed.read, Parsed.readFrom, Parsed.option?, Parsed.addPositional]
  have asked : Invocation.ofArguments ws ["graph.json"] =
      .ok (.run ⟨none, none, false, ⟨"/", ["graph.json"]⟩⟩) := by
    rw [ofArguments_eq_run_iff read]
    exact ⟨rfl, rfl, rfl, ⟨_, rfl, rfl⟩, rfl⟩
  refine ⟨holds.loadsTypes loads, report, ?_⟩
  obtain ⟨settings, -, carried⟩ :=
    run_eq_ofRun (c := .default) asked rfl ⟨"WARNING", rfl, by decide⟩
  have shown : sent ws false (Report.render types .default) =
      (".A (object)\n  summary: \n  imports: A\n\n" : String) := by
    rw [report]
    with_unfolding_all rfl
  rw [carried, Run.ofRequest_of_loads holds loads, Outcome.stdout_ofRun,
    Run.deliver_of_sent (writable_of_none rfl) shown]
  rfl

end TypeGraph.Command
