import TypeGraph.Proofs.Command.Arguments
import TypeGraph.Proofs.Log

/-!
Logging leaves results alone. Two runs whose configurations agree on everything but the log level
and the form of log lines end alike and deliver the same report to the same place. Only their error
streams differ, and there only in how the same events are written, which never fails.
-/

namespace TypeGraph.Command

/-- The configuration that a run goes by: the flag of the command line overrides the option. -/
def Request.effective (r : Request) (c : Config) : Config :=
  if r.failOnUnresolved then c.set (.bool true) .failOnUnresolved else c

/-- What is found at a place, whatever a file there says. -/
def Entry.bare : Entry → Entry
  | .file _ => .file []
  | e => e

/-- A workspace without regard to the content of files and to where relative paths start. -/
def Workspace.bare (ws : Workspace) : Workspace :=
  { ws with directory := ⟨"/", []⟩, entry := fun l => (ws.entry l).bare }

/-- Two requests differ at most in their configurations, and these only in how to log. The files of
the two workspaces may differ in content, but for the document. -/
structure LoggedApart (ws ws' : Workspace) (r r' : Request) (c c' : Config) : Prop where
  tree : ws.bare = ws'.bare
  document : r.document = r'.document
  content : ws.entry r.document = ws'.entry r.document
  output : r.output = r'.output
  settings : ∀ setting : Setting, setting ≠ .logLevel → setting ≠ .jsonLogs →
    (r.effective c).get setting = (r'.effective c').get setting

/-- An outcome but for its error stream. -/
def Outcome.quiet (o : Outcome) : Outcome := { o with stderr := "" }

/-- The error stream has the log of these events, written under the settings of a configuration, and
then a message. -/
def Outcome.Logs (o : Outcome) (c : Config) (events : List Log.Event) (message : String) : Prop :=
  ∃ settings log, Log.Settings.ofOptions c.logLevel c.jsonLogs = .ok settings ∧
    settings.writeCalls ((events.map Log.Event.entry).map Log.Entry.call) = .ok log ∧
    o.stderr = log.spelled ++ message

def Run.message (ws : Workspace) (run : Run) : String :=
  match run.ending with
  | .failure message => Outcome.errorText ws message
  | _ => ""

section Workspace

variable {ws ws' : Workspace}

theorem Workspace.obstacleFrom?_bare (ws : Workspace) (root : String) (above names : List String) :
    ws.bare.obstacleFrom? root above names = ws.obstacleFrom? root above names := by
  induction names generalizing above with
  | nil => rfl
  | cons name below ih =>
      simp only [obstacleFrom?, ih]
      cases h : ws.entry ⟨root, above⟩ <;> simp [bare, Entry.bare, h]

theorem Workspace.obstacle?_bare (ws : Workspace) (l : Location) :
    ws.bare.obstacle? l = ws.obstacle? l := by
  simp only [obstacle?, obstacleFrom?_bare]

theorem Workspace.writeFault?_bare (ws : Workspace) (l : Location) :
    ws.bare.writeFault? l = ws.writeFault? l := by
  simp only [writeFault?, obstacle?_bare]
  cases h : ws.entry l <;> simp [bare, Entry.bare, h]

theorem Workspace.writeFault?_eq (tree : ws.bare = ws'.bare) :
    ws.writeFault? = ws'.writeFault? := by
  funext l
  rw [← ws.writeFault?_bare, tree, ws'.writeFault?_bare]

theorem Workspace.read_eq (tree : ws.bare = ws'.bare) {l : Location}
    (content : ws.entry l = ws'.entry l) : ws.read l = ws'.read l := by
  have obstacle : ws.obstacle? l = ws'.obstacle? l := by
    rw [← ws.obstacle?_bare, tree, ws'.obstacle?_bare]
  simp only [read, content, obstacle]

theorem Workspace.shown_eq (tree : ws.bare = ws'.bare) : ws.shown = ws'.shown := by
  have controls : ws.withoutControls = ws'.withoutControls := congrArg (·.withoutControls) tree
  funext terminal text
  simp only [shown, controls]

end Workspace

section Run

variable {ws ws' : Workspace} {r r' : Request} {c c' : Config}

theorem Request.strict_effective (r : Request) (c : Config) :
    (r.effective c).failOnUnresolved.holds = Run.strict r c := by
  unfold effective Run.strict
  cases r.failOnUnresolved <;> rfl

theorem Request.options_effective (r : Request) (c : Config) :
    Report.Options.ofConfig (r.effective c) = Report.Options.ofConfig c := by
  unfold effective
  cases r.failOnUnresolved <;> rfl

theorem LoggedApart.strict_eq (apart : LoggedApart ws ws' r r' c c') :
    Run.strict r c = Run.strict r' c' := by
  have strict := apart.settings .failOnUnresolved nofun nofun
  rw [← r.strict_effective, ← r'.strict_effective]
  exact congrArg Json.holds strict

theorem LoggedApart.render_eq (apart : LoggedApart ws ws' r r' c c') (types : Mapping DataType) :
    Report.render types c = Report.render types c' := by
  have imports := apart.settings .showImports nofun nofun
  have documentation := apart.settings .showDocumentation nofun nofun
  have options : Report.Options.ofConfig c = Report.Options.ofConfig c' := by
    rw [← r.options_effective c, ← r'.options_effective c']
    exact congrArg₂ Report.Options.mk (congrArg Json.holds imports)
      (congrArg Json.holds documentation)
  simp only [Report.render, options]

theorem LoggedApart.deliver_eq (apart : LoggedApart ws ws' r r' c c') :
    Run.deliver ws r c = Run.deliver ws' r' c' := by
  have terminal : ws.terminalOutput = ws'.terminalOutput :=
    congrArg (·.terminalOutput) apart.tree
  funext events types
  simp only [Run.deliver, apart.strict_eq, apart.render_eq, apart.output, terminal,
    Workspace.shown_eq apart.tree, Workspace.writeFault?_eq apart.tree]

/-- Nothing of what happens depends on how it is logged. -/
theorem LoggedApart.ofRequest_eq (apart : LoggedApart ws ws' r r' c c') :
    Run.ofRequest ws r c = Run.ofRequest ws' r' c' := by
  have read := Workspace.read_eq apart.tree apart.content
  rw [apart.document] at read
  simp only [Run.ofRequest, apart.document, read, apart.deliver_eq]

end Run

section Outcome

variable {ws ws' : Workspace}

theorem Outcome.quiet_ofRun (ws ws' : Workspace) (settings settings' : Log.Settings) (run : Run) :
    (ofRun ws settings run).quiet = (ofRun ws' settings' run).quiet := by
  unfold ofRun
  cases run.ending <;> rfl

theorem Outcome.stderr_ofRun (ws : Workspace) (settings : Log.Settings) (run : Run) :
    (ofRun ws settings run).stderr =
      (settings.write (run.events.map Log.Event.entry)).spelled ++ run.message ws := by
  unfold ofRun Run.message
  cases run.ending <;> simp

theorem Run.message_eq (tree : ws.bare = ws'.bare) (run : Run) :
    run.message ws = run.message ws' := by
  have terminal : ws.terminalErrors = ws'.terminalErrors := congrArg (·.terminalErrors) tree
  simp only [message, Outcome.errorText, terminal, Workspace.shown_eq tree]

theorem Outcome.logs_ofRun {c : Config} {settings : Log.Settings}
    (valid : Log.Settings.ofOptions c.logLevel c.jsonLogs = .ok settings) (run : Run) :
    (ofRun ws settings run).Logs c run.events (run.message ws) :=
  ⟨settings, _, valid, settings.writeCalls_events run.events, stderr_ofRun ws settings run⟩

end Outcome

/-- Two runs that differ only in how they log have the same results, and log the same events before
the same message. -/
theorem results_independent_of_logging {ws ws' : Workspace} {args args' : List String}
    {r r' : Request} {c c' : Config}
    (asked : Invocation.ofArguments ws args = .ok (.run r)) (configured : readConfig ws r = .ok c)
    (level : NamesLevel c)
    (asked' : Invocation.ofArguments ws' args' = .ok (.run r'))
    (configured' : readConfig ws' r' = .ok c') (level' : NamesLevel c')
    (apart : LoggedApart ws ws' r r' c c') :
    (run ws args).quiet = (run ws' args').quiet ∧
      ∃ events message,
        (run ws args).Logs c events message ∧ (run ws' args').Logs c' events message := by
  obtain ⟨settings, valid, carried⟩ := run_eq_ofRun asked configured level
  obtain ⟨settings', valid', carried'⟩ := run_eq_ofRun asked' configured' level'
  rw [carried, carried', ← apart.ofRequest_eq]
  refine ⟨Outcome.quiet_ofRun ws ws' settings settings' _, _, _,
    Outcome.logs_ofRun valid _, ?_⟩
  rw [Run.message_eq apart.tree]
  exact Outcome.logs_ofRun valid' _

/-- A verbose run that is strict by its configuration, and a plain one strict by its flag. -/
theorem verbose_run_same_results :
    let ws := Workspace.ofTexts [
      ("graph.json",
        "\x7b\"types\":\x7b\"A\":\x7b\"type\":\"anyOf\",\"items\":[\"B\"]\x7d\x7d\x7d"),
      ("verbose.json",
        "\x7b\"log_level\":\"Debug\",\"json_logs\":true,\"fail_on_unresolved\":true\x7d")]
    let args := ["--config=verbose.json", "--", "graph.json"]
    let args' := ["--fail-on-unresolved", "--", "graph.json"]
    let r : Request := ⟨some ⟨"/", ["verbose.json"]⟩, none, false, ⟨"/", ["graph.json"]⟩⟩
    let r' : Request := ⟨none, none, true, ⟨"/", ["graph.json"]⟩⟩
    let c : Config := ⟨.str "Debug", .bool true, .bool true, .bool true, .bool true, none, none⟩
    (Invocation.ofArguments ws args = .ok (.run r) ∧ readConfig ws r = .ok c ∧ NamesLevel c) ∧
      (Invocation.ofArguments ws args' = .ok (.run r') ∧ readConfig ws r' = .ok .default ∧
        NamesLevel .default) ∧
      LoggedApart ws ws r r' c .default ∧
      (run ws args).quiet = (run ws args').quiet ∧
      ∃ events message, (run ws args).Logs c events message ∧
        (run ws args').Logs .default events message := by
  intro ws args args' r r' c
  let p : Parsed := ⟨[(.config, "verbose.json")], ["graph.json"]⟩
  let p' : Parsed := ⟨[(.failOnUnresolved, "")], ["graph.json"]⟩
  have plain : p.Plain ∧ p'.Plain := by simp [p, p', Parsed.Plain, Flag.takesValue]
  have read : Parsed.read args = .ok p := Parsed.read_arguments plain.1
  have read' : Parsed.read args' = .ok p' := Parsed.read_arguments plain.2
  have asked : Invocation.ofArguments ws args = .ok (.run r) := by
    rw [ofArguments_eq_run_iff read]
    exact ⟨rfl, rfl, rfl, ⟨_, rfl, rfl⟩, rfl⟩
  have asked' : Invocation.ofArguments ws args' = .ok (.run r') := by
    rw [ofArguments_eq_run_iff read']
    exact ⟨rfl, rfl, rfl, ⟨_, rfl, rfl⟩, rfl⟩
  have verbose : ws.Holds ⟨"/", ["verbose.json"]⟩ (.obj [("log_level", .str "Debug"),
      ("json_logs", .bool true), ("fail_on_unresolved", .bool true)]) :=
    Workspace.holds_ofTexts rfl (by with_unfolding_all rfl) (by with_unfolding_all rfl)
  have configured : readConfig ws r = .ok c := readConfig_of_holds rfl verbose rfl
  have level : NamesLevel c := ⟨"Debug", rfl, by decide⟩
  have level' : NamesLevel .default := ⟨"WARNING", rfl, by decide⟩
  have apart : LoggedApart ws ws r r' c .default := by
    refine ⟨rfl, rfl, rfl, rfl, fun setting notLevel notJson => ?_⟩
    cases setting with
    | logLevel => exact absurd rfl notLevel
    | jsonLogs => exact absurd rfl notJson
    | failOnUnresolved | showImports | showDocumentation => rfl
  exact ⟨⟨asked, configured, level⟩, ⟨asked', rfl, level'⟩, apart,
    results_independent_of_logging asked configured level asked' rfl level' apart⟩

end TypeGraph.Command
