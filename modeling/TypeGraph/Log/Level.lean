import TypeGraph.Json.Basic
import TypeGraph.Text.Uppercase

/-!
Log levels and the threshold below which entries are dropped. A threshold is given by a name
in any letter case.
-/

namespace TypeGraph.Log

inductive Level
  | debug
  | info
  | warning
  | error
  | critical
deriving DecidableEq

namespace Level

def all : List Level := [debug, info, warning, error, critical]

def name : Level → Text
  | debug => "debug"
  | info => "info"
  | warning => "warning"
  | error => "error"
  | critical => "critical"

def weight : Level → Nat
  | debug => 10
  | info => 20
  | warning => 30
  | error => 40
  | critical => 50

end Level

/-- Entries of at least this weight are kept. -/
structure Threshold where
  weight : Nat
deriving DecidableEq

namespace Threshold

def admits (t : Threshold) (level : Level) : Bool := t.weight ≤ level.weight

/-- The names of thresholds, in upper case. -/
def named : List (Text × Threshold) := [
  ("CRITICAL", ⟨50⟩), ("FATAL", ⟨50⟩), ("ERROR", ⟨40⟩), ("WARNING", ⟨30⟩), ("WARN", ⟨30⟩),
  ("INFO", ⟨20⟩), ("DEBUG", ⟨10⟩), ("NOTSET", ⟨0⟩)]

inductive Error
  /-- The value of the given type is not text. -/
  | notText (typeName : Text)
  | unknown (name : Text)
  /-- The name belongs to a text setting. -/
  | textSetting (value : Text)
  /-- The name belongs to a table of settings. -/
  | tableSetting (value : Text)

def Error.message : Error → Text
  | .notText typeName => "'" ++ typeName ++ "' object has no attribute 'upper'"
  | .unknown name => "module 'logging' has no attribute '" ++ name ++ "'"
  | .textSetting value => "Unknown level: " ++ "'" ++ value ++ "'"
  | .tableSetting value => "Level not an integer or a valid string: " ++ value

/-- The format of a plain log line, a setting that is no level. -/
def basicFormat : Text := "%(levelname)s:%(name)s:%(message)s"

/-- The styles of log formats, a table that is no level. -/
def styleTable : Text :=
  "\x7b'%': (<class 'logging.PercentStyle'>, '" ++ basicFormat ++ "'), " ++
    "'\x7b': (<class 'logging.StrFormatStyle'>, " ++
    "'\x7blevelname\x7d:\x7bname\x7d:\x7bmessage\x7d'), " ++
    "'$': (<class 'logging.StringTemplateStyle'>, " ++
    "'$\x7blevelname\x7d:$\x7bname\x7d:$\x7bmessage\x7d')\x7d"

/-- Names that are looked up with success although they name no level. -/
def settings : List (Text × Error) := [
  ("BASIC_FORMAT", .textSetting basicFormat), ("_STYLES", .tableSetting styleTable)]

def ofName (name : Text) : Except Error Threshold :=
  let name := Text.upper name
  match named.lookup name, settings.lookup name with
  | some threshold, _ => .ok threshold
  | none, some error => .error error
  | none, none => .error (.unknown name)

def ofJson : Json → Except Error Threshold
  | .str name => ofName name
  | value => .error (.notText value.typeName)

end Threshold
end TypeGraph.Log
