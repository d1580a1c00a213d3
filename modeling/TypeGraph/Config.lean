import TypeGraph.Json.Parser
import TypeGraph.Text.File

/-!
Options for loading and reporting. Their values are not checked when they are read: each is
tested where it is used, mostly by whether it holds. A few keys are taken by the configuration
itself: some of them refuse every value, others take a value that shows later.
-/

namespace TypeGraph

/-- The options, in the order in which a configuration lists them. -/
inductive Setting
  | logLevel
  | jsonLogs
  | failOnUnresolved
  | showImports
  | showDocumentation
deriving DecidableEq

namespace Setting

def all : List Setting := [logLevel, jsonLogs, failOnUnresolved, showImports, showDocumentation]

def key : Setting → Text
  | logLevel => "log_level"
  | jsonLogs => "json_logs"
  | failOnUnresolved => "fail_on_unresolved"
  | showImports => "show_imports"
  | showDocumentation => "show_documentation"

def ofKey? (key : Text) : Option Setting := all.find? (fun s => s.key == key)

theorem mem_all (s : Setting) : s ∈ all := by cases s <;> decide

theorem ofKey?_key (s : Setting) : ofKey? s.key = some s := by cases s <;> rfl

end Setting

structure Config where
  logLevel : Json
  jsonLogs : Json
  failOnUnresolved : Json
  showImports : Json
  showDocumentation : Json
  /-- A value given for the export itself stands in its way. -/
  exportOverride : Option Json
  /-- A value given for the list of options takes its place in the export. -/
  listingOverride : Option Json

namespace Config

/-- Warnings on the console, a lenient check, and a full report. -/
def default : Config :=
  ⟨.str "WARNING", .bool false, .bool false, .bool true, .bool true, none, none⟩

def get (c : Config) : Setting → Json
  | .logLevel => c.logLevel
  | .jsonLogs => c.jsonLogs
  | .failOnUnresolved => c.failOnUnresolved
  | .showImports => c.showImports
  | .showDocumentation => c.showDocumentation

def set (c : Config) (value : Json) : Setting → Config
  | .logLevel => { c with logLevel := value }
  | .jsonLogs => { c with jsonLogs := value }
  | .failOnUnresolved => { c with failOnUnresolved := value }
  | .showImports => { c with showImports := value }
  | .showDocumentation => { c with showDocumentation := value }

/-- The key under which a value takes the place of the export. -/
def exportKey : Text := "to_dict"

/-- The key under which a value takes the place of the list of options. -/
def listingKey : Text := "__dataclass_fields__"

/-- The key of the class, which no value of a file can be. -/
def classKey : Text := "__class__"

/-- The key of all entries together, which can be replaced as a whole. -/
def entriesKey : Text := "__dict__"

/-- The key of the references to a configuration, which are not for writing. -/
def referencesKey : Text := "__weakref__"

/-- Keep one entry: an option, or what takes the place of a part of the export. Any other key
names nothing that is looked at. -/
def store (c : Config) (key : Text) (value : Json) : Config :=
  match Setting.ofKey? key with
  | some setting => c.set value setting
  | none =>
      if key = exportKey then { c with exportOverride := some value }
      else if key = listingKey then { c with listingOverride := some value }
      else c

/-- A configuration that has the given entries and no others. -/
def ofEntries (entries : List (Text × Json)) : Config :=
  entries.foldl (fun c e => c.store e.1 e.2) default

inductive Error
  /-- The configuration is a value of the given type, not an object. -/
  | notMapping (typeName : Text)
  /-- The value of the given type in the export's place cannot be asked to export. -/
  | notExportable (typeName : Text)
  /-- The value of the given type in the place of the list of options lists nothing. -/
  | notListing (typeName : Text)
  /-- What is listed is a value of the given type, not an option. -/
  | notOption (typeName : Text)
  /-- The value of the given type cannot be the class. -/
  | notClass (typeName : Text)
  /-- The value of the given type cannot be all entries together. -/
  | notEntries (typeName : Text)
  | readOnlyReferences

def Error.message : Error → Text
  | .notMapping typeName => "'" ++ typeName ++ "' object has no attribute 'items'"
  | .notExportable typeName => "'" ++ typeName ++ "' object is not callable"
  | .notListing typeName => "'" ++ typeName ++ "' object has no attribute 'values'"
  | .notOption typeName => "'" ++ typeName ++ "' object has no attribute '_field_type'"
  | .notClass typeName => classKey ++ " must be set to a class, not '" ++ typeName ++ "' object"
  | .notEntries typeName =>
      entriesKey ++ " must be set to a dictionary, not a '" ++ typeName ++ "'"
  | .readOnlyReferences =>
      "attribute '" ++ referencesKey ++ "' of 'DataTypeConfig' objects is not writable"

/-- Take over one entry. An object under the key of all entries replaces what was taken over
before it. -/
def assign (c : Config) (key : Text) (value : Json) : Except Error Config :=
  if key = classKey then .error (.notClass value.typeName)
  else if key = referencesKey then .error .readOnlyReferences
  else if key = entriesKey then
    match value with
    | .obj entries => .ok (ofEntries entries)
    | value => .error (.notEntries value.typeName)
  else .ok (c.store key value)

/-- The defaults overridden by the entries of an object, in order. -/
def ofJson : Json → Except Error Config
  | .obj entries => entries.foldlM (fun c e => c.assign e.1 e.2) default
  | value => .error (.notMapping value.typeName)

def options (c : Config) : List (Text × Json) :=
  Setting.all.map fun s => (s.key, c.get s)

/-- The options that an export lists: all of them, unless there is something in the list's
place, in which no value can be an option. -/
def listed (c : Config) : Except Error (List (Text × Json)) :=
  match c.listingOverride with
  | none => .ok c.options
  | some (.obj []) => .ok []
  | some (.obj ((_, value) :: _)) => .error (.notOption value.typeName)
  | some value => .error (.notListing value.typeName)

/-- The options with their values. -/
def toJson (c : Config) : Except Error Json :=
  match c.exportOverride with
  | some value => .error (.notExportable value.typeName)
  | none => c.listed.map .obj

/-- Two configurations are equal when their options are. -/
def same (c d : Config) : Bool := Setting.all.all fun s => (c.get s).same (d.get s)

inductive ReadFailure
  | undecodable (fault : Text.Utf8.Fault)
  | invalidText (fault : Json.Parser.Fault)
  | config (error : Error)

def ReadFailure.message : ReadFailure → Text
  | .undecodable fault => fault.message
  | .invalidText fault => fault.message
  | .config error => error.message

/-- A configuration from the content of a file. -/
def ofFile (bytes : List UInt8) : Except ReadFailure Config := do
  let text ← (Text.decodeFile bytes).mapError .undecodable
  let value ← (Json.parse text).mapError .invalidText
  (ofJson value).mapError .config

end Config
end TypeGraph
