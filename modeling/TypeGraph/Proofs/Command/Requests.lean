import TypeGraph.Command.Run
import TypeGraph.Proofs.Config
import TypeGraph.Text.Terminal

/-!
Command lines that are carried out. If all that a command line names is there and its configuration
only has settings, the command rejects nothing before it loads the document, and the run follows
the configuration that is stated.
-/

namespace TypeGraph.Command

/-- The file at a place holds the text of a JSON value. -/
def Workspace.Holds (ws : Workspace) (location : Location) (value : Json) : Prop :=
  ∃ bytes text, ws.read location = .ok bytes ∧ Text.decodeFile bytes = .ok text ∧
    Json.parse text = .ok value

/-- The bytes of a text of ASCII characters. -/
def asciiBytes (text : String) : List UInt8 := text.toList.map fun c => UInt8.ofNat c.toNat

/-- A workspace with ASCII texts in files at its root. -/
def Workspace.ofTexts (files : List (String × String)) : Workspace where
  directory := ⟨"/", []⟩
  entry location :=
    match location.steps with
    | [] => .directory
    | [name] => (files.lookup name).elim .missing fun text => .file (asciiBytes text)
    | _ => .missing
  terminalOutput := false
  terminalErrors := false
  withoutControls := Text.dropControls

theorem Workspace.holds_ofTexts {files : List (String × String)} {root name text : String}
    {value : Json} (known : files.lookup name = some text)
    (decoded : Text.decodeFile (asciiBytes text) = .ok text.toList)
    (parsed : Json.parse text.toList = .ok value) :
    (Workspace.ofTexts files).Holds ⟨root, [name]⟩ value := by
  refine ⟨_, _, ?_, decoded, parsed⟩
  simp [Workspace.read, ofTexts, known]

/-- A command line that asks for no help and names a document, maybe a configuration that says
something valid about settings, and maybe an output that can be written. -/
structure WellPosed (ws : Workspace) (p : Parsed) (document : Json)
    (options : List (Text × Json)) : Prop where
  noHelp : p.has .help = false
  document : ∃ path location, p.positional = [path] ∧ locate ws path = .ok location ∧
    ws.Holds location document
  defaults : p.value? .config = none → options = []
  config : ∀ path, p.value? .config = some path →
    ∃ location, locate ws path = .ok location ∧ ws.Holds location (.obj options)
  output : ∀ path, p.value? .output = some path →
    ∃ location, locate ws path = .ok location ∧ ws.writeFault? location = none
  settings : ∀ e ∈ options, ∃ setting : Setting, e.1 = setting.key
  level : ∃ name, Config.stated options .logLevel = .str name ∧
    Text.upper name ∈ Log.Threshold.named.map Prod.fst

/-- A request whose files hold what is given here, and whose output can be written. -/
structure Request.Served (ws : Workspace) (r : Request) (document : Json)
    (options : List (Text × Json)) : Prop where
  document : ws.Holds r.document document
  defaults : r.config = none → options = []
  config : ∀ location, r.config = some location → ws.Holds location (.obj options)
  output : ∀ location, r.output = some location → ws.writeFault? location = none

section

variable {ws : Workspace} {p : Parsed} {document : Json} {options : List (Text × Json)}

theorem Workspace.Holds.found {location : Location} {value : Json}
    (holds : ws.Holds location value) : ws.exists? location = true := by
  obtain ⟨bytes, text, read, -⟩ := holds
  unfold Workspace.read at read
  unfold Workspace.exists?
  cases h : ws.entry location with
  | missing => simp [h] at read
  | directory | file _ => rfl

theorem WellPosed.checkConfig (posed : WellPosed ws p document options) :
    ∃ config, checkConfig ws p = .ok config ∧ (config = none → options = []) ∧
      ∀ location, config = some location → ws.Holds location (.obj options) := by
  unfold Command.checkConfig
  cases given : p.value? .config with
  | none => exact ⟨none, rfl, fun _ => posed.defaults given, nofun⟩
  | some path =>
      obtain ⟨location, located, holds⟩ := posed.config path given
      refine ⟨some location, ?_, nofun, ?_⟩
      · simp [located, holds.found, bind, Except.bind]
      · rintro _ ⟨⟩
        exact holds

theorem WellPosed.checkOutput (posed : WellPosed ws p document options) :
    ∃ output, checkOutput ws p = .ok output ∧ output.isSome = (p.value? .output).isSome ∧
      ∀ location, output = some location → ws.writeFault? location = none := by
  unfold Command.checkOutput
  cases given : p.value? .output with
  | none => exact ⟨none, rfl, rfl, nofun⟩
  | some path =>
      obtain ⟨location, located, writable⟩ := posed.output path given
      refine ⟨some location, ?_, rfl, ?_⟩
      · simp [located, Except.map]
      · rintro _ ⟨⟩
        exact writable

theorem checkOptions_eq_ok_iff {config output : Option Location} :
    checkOptions ws p = .ok (config, output) ↔
      checkConfig ws p = .ok config ∧ checkOutput ws p = .ok output := by
  unfold checkOptions
  cases checkConfig ws p <;> cases checkOutput ws p <;> cases p.outputFirst <;>
    simp [bind, Except.bind]

/-- What a command line that can be carried out asks for. -/
theorem ofArguments_eq_run_iff {args : List String} {r : Request}
    (read : Parsed.read args = .ok p) :
    Invocation.ofArguments ws args = .ok (.run r) ↔
      p.has .help = false ∧ checkConfig ws p = .ok r.config ∧ checkOutput ws p = .ok r.output ∧
        (∃ path, p.positional = [path] ∧ checkPath ws path = .ok r.document) ∧
        r.failOnUnresolved = p.has .failOnUnresolved := by
  obtain ⟨config, output, strict, document⟩ := r
  rw [Invocation.ofArguments, read, ← and_assoc (a := checkConfig ws p = _),
    ← checkOptions_eq_ok_iff]
  change (if p.has .help then _ else _) = _ ↔ _
  cases p.has .help with
  | true => simp
  | false =>
      rw [if_neg Bool.false_ne_true]
      cases checkOptions ws p with
      | error _ => simp [bind, Except.bind]
      | ok _ =>
          cases p.positional with
          | nil => simp [bind, Except.bind]
          | cons path extra =>
              cases place : checkPath ws path with
              | error _ => simp [place, bind, Except.bind]
              | ok _ =>
                  cases extra <;>
                    simp [place, bind, Except.bind, Prod.ext_iff, and_assoc, and_left_comm,
                      and_comm, eq_comm]

/-- What a well-posed command line asks for. -/
theorem WellPosed.request {args : List String} (read : Parsed.read args = .ok p)
    (posed : WellPosed ws p document options) :
    ∃ r : Request, Invocation.ofArguments ws args = .ok (.run r) ∧
      r.failOnUnresolved = p.has .failOnUnresolved ∧
      r.output.isSome = (p.value? .output).isSome ∧ r.Served ws document options := by
  obtain ⟨config, hconfig, defaults, configured⟩ := posed.checkConfig
  obtain ⟨output, houtput, toFile, writable⟩ := posed.checkOutput
  obtain ⟨path, location, positional, located, holds⟩ := posed.document
  have hpath : checkPath ws path = .ok location := by
    simp [checkPath, located, holds.found, bind, Except.bind]
  refine ⟨⟨config, output, p.has .failOnUnresolved, location⟩, ?_, rfl, toFile, ?_⟩
  · rw [ofArguments_eq_run_iff read]
    exact ⟨posed.noHelp, hconfig, houtput, ⟨path, positional, hpath⟩, rfl⟩
  · exact ⟨holds, defaults, configured, writable⟩

theorem readConfig_of_holds {r : Request} {location : Location} {value : Json} {c : Config}
    (given : r.config = some location) (holds : ws.Holds location value)
    (hc : Config.ofJson value = .ok c) : readConfig ws r = .ok c := by
  obtain ⟨bytes, text, read, decoded, parsed⟩ := holds
  simp [Command.readConfig, given, read, Config.ofFile, decoded, parsed, hc, bind, Except.bind,
    Except.mapError]

/-- The configuration of a request is what its options state. -/
theorem Request.Served.readConfig {r : Request} (served : r.Served ws document options)
    (settings : ∀ e ∈ options, ∃ setting : Setting, e.1 = setting.key) :
    ∃ c, readConfig ws r = .ok c ∧ ∀ setting, c.get setting = Config.stated options setting := by
  cases given : r.config with
  | none =>
      obtain rfl := served.defaults given
      exact ⟨.default, by rw [Command.readConfig, given], fun _ => rfl⟩
  | some location =>
      obtain ⟨c, hc, values⟩ := Config.ofJson_of_settings options settings
      exact ⟨c, readConfig_of_holds given (served.config location given) hc, values⟩

theorem threshold_of_named {level : Text}
    (named : Text.upper level ∈ Log.Threshold.named.map Prod.fst) :
    ∃ threshold, Log.Threshold.ofJson (.str level) = .ok threshold := by
  obtain ⟨threshold, known⟩ :=
    Option.isSome_iff_exists.mp ((Mapping.isSome_lookup_iff _).mpr named)
  exact ⟨threshold, by simp [Log.Threshold.ofJson, Log.Threshold.ofName, known]⟩

/-- The log level of a configuration is the name of one, in any letter case. -/
def NamesLevel (c : Config) : Prop :=
  ∃ name, c.logLevel = .str name ∧ Text.upper name ∈ Log.Threshold.named.map Prod.fst

/-- A request under a configuration with a level is carried out, and its run is seen as the log
settings of the configuration let it. -/
theorem run_eq_ofRun {args : List String} {r : Request} {c : Config}
    (asked : Invocation.ofArguments ws args = .ok (.run r)) (configured : readConfig ws r = .ok c)
    (level : NamesLevel c) :
    ∃ settings : Log.Settings, Log.Settings.ofOptions c.logLevel c.jsonLogs = .ok settings ∧
      run ws args = .ofRun ws settings (Run.ofRequest ws r c) := by
  obtain ⟨name, hlevel, named⟩ := level
  obtain ⟨threshold, hthreshold⟩ := threshold_of_named named
  have hsettings : Log.Settings.ofOptions c.logLevel c.jsonLogs =
      .ok ⟨threshold, if c.jsonLogs.holds then .json else .console⟩ := by
    simp [Log.Settings.ofOptions, hlevel, hthreshold, bind, Except.bind]
  refine ⟨_, hsettings, ?_⟩
  simp [run, asked, runRequest, configured, runConfigured, hsettings]

/-- Nothing stands in the way of a well-posed command line before its document is loaded. -/
theorem WellPosed.run_eq {args : List String} (read : Parsed.read args = .ok p)
    (posed : WellPosed ws p document options) :
    ∃ (r : Request) (c : Config) (settings : Log.Settings),
      run ws args = .ofRun ws settings (Run.ofRequest ws r c) ∧
      r.Served ws document options ∧ r.failOnUnresolved = p.has .failOnUnresolved ∧
      r.output.isSome = (p.value? .output).isSome ∧
      ∀ setting, c.get setting = Config.stated options setting := by
  obtain ⟨r, asked, flag, toFile, served⟩ := posed.request read
  obtain ⟨c, configured, values⟩ := served.readConfig posed.settings
  obtain ⟨name, stated, named⟩ := posed.level
  obtain ⟨settings, -, carried⟩ :=
    run_eq_ofRun asked configured ⟨name, (values .logLevel).trans stated, named⟩
  exact ⟨r, c, settings, carried, served, flag, toFile, values⟩

end

end TypeGraph.Command
