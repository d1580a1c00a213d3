import TypeGraph.Log.Line

/-!
Calls of a logger's functions with values that are given freely. Function and logger may be named
by what is no text. A field may have a name that the function keeps for its own arguments, or a
value that cannot stand where its name puts it. The last is a fault only where the entry is
written.
-/

namespace TypeGraph.Log

/-- The functions of a logger that write an entry. -/
inductive Method
  | debug
  | info
  | warning
  | error
  | exception
  | critical
  | fatal
  /-- Writes an entry of the level that takes the place of the text. -/
  | log
deriving DecidableEq

namespace Method

def all : List Method := [debug, info, warning, error, exception, critical, fatal, log]

def name : Method → Text
  | debug => "debug"
  | info => "info"
  | warning => "warning"
  | error => "error"
  | exception => "exception"
  | critical => "critical"
  | fatal => "fatal"
  | log => "log"

/-- The level of the entries that a function writes, if they all have one. -/
def level? : Method → Option Level
  | debug => some .debug
  | info => some .info
  | warning => some .warning
  | error | exception => some .error
  | critical | fatal => some .critical
  | log => none

/-- The function of a name; one of them has a short name too. -/
def ofName? (name : Text) : Option Method :=
  if name = "warn" then some warning else all.find? (fun method => method.name == name)

theorem mem_all (m : Method) : m ∈ all := by cases m <;> decide

theorem ofName?_name (m : Method) : ofName? m.name = some m := by cases m <;> rfl

end Method

/-- Functions that derive a logger from another. They take fields and no text. -/
def derivingFunctions : List Text := ["bind", "new"]

inductive Fault
  /-- A value of the given type names no function. -/
  | functionNotText (typeName : Text)
  | unknownFunction (name : Text)
  /-- A function that takes fields only is given a text. -/
  | surplusText (function : Text)
  /-- A logger has no name that is text, although it has one. -/
  | loggerNotText
  /-- A field has the name of an argument that the function is given already. -/
  | takenName (function argument : Text)
  | unknownLevel (value : Json)
  /-- A value of the given type cannot be looked up among the levels. -/
  | compoundLevel (typeName : Text)
  /-- A value of the given type is no log record that could name its logger. -/
  | notRecord (typeName : Text)
  /-- A value of the given type cannot be shown below the columns of a line. -/
  | notText (typeName : Text)

/-- The type of the object that the logging functions belong to. -/
def loggerType : Text := "BoundLogger"

def Fault.message : Fault → Text
  | .functionNotText typeName => "attribute name must be string, not '" ++ typeName ++ "'"
  | .unknownFunction name => "'" ++ loggerType ++ "' object has no attribute '" ++ name ++ "'"
  | .surplusText function =>
      function ++ "() takes 1 positional argument but 2 were given"
  | .loggerNotText => "A logger name must be a string"
  | .takenName function argument =>
      function ++ "() got multiple values for argument '" ++ argument ++ "'"
  | .unknownLevel value => value.literal
  | .compoundLevel typeName => "unhashable type: '" ++ typeName ++ "'"
  | .notRecord typeName => "'" ++ typeName ++ "' object has no attribute 'name'"
  | .notText typeName => "can only concatenate str (not \"" ++ typeName ++ "\") to str"

def Method.function (m : Method) : Text := loggerType ++ "." ++ m.name

/-- The type of a logger that is not set up yet, as it is when another one is derived from it. -/
def freshLoggerType : Text := loggerType ++ "LazyProxy"

/-- The function that all the others hand their entries to. -/
def sharedFunction : Text := loggerType ++ "._proxy_to_logger"

/-- The argument that stands for the logger, and the one after it. -/
def selfArgument : Text := "self"
def textArgument : Text := "event"
def levelArgument : Text := "level"

/-- Arguments that a function is given by their places. -/
def Method.ownArguments : Method → List Text
  | .log => [selfArgument, levelArgument]
  | _ => [selfArgument, textArgument]

/-- An argument that the shared function is given by its place. -/
def sharedArgument : Text := "method_name"

structure Call where
  /-- The name of the function. -/
  function : Json
  /-- The name of the logger; one that does not hold stands for the root of all. -/
  logger : Json
  /-- The text of the entry, as a rule. -/
  text : Json
  fields : Mapping Json

/-- What a call asks to be written. -/
structure Request where
  entry : Entry
  /-- Whether a note on the exception at hand is to follow. -/
  withException : Bool

namespace Call

/-- The fault of a field whose name is taken by one of a function's arguments. -/
def takenName (c : Call) (function : Text) (arguments : List Text) : Except Fault Unit :=
  match c.fields.keys.find? arguments.contains with
  | some name => .error (.takenName function name)
  | none => .ok ()

def method (c : Call) : Except Fault Method :=
  match c.function with
  | .str name =>
      if derivingFunctions.contains name then do
        let function := freshLoggerType ++ "." ++ name
        c.takenName function [selfArgument]
        .error (.surplusText function)
      else if c.logger.holds && c.logger.asText?.isNone then .error .loggerNotText
      else (Method.ofName? name).elim (.error (.unknownFunction name)) .ok
  | value => .error (.functionNotText value.typeName)

/-- The level of a value that equals its weight. -/
def levelOf (value : Json) : Except Fault Level :=
  match value, Level.all.find? fun level => (Json.int level.weight).same value with
  | .arr _, _ | .obj _, _ => .error (.compoundLevel value.typeName)
  | _, some level => .ok level
  | _, none => .error (.unknownLevel value)

/-- What a call asks to be written, unless it cannot be made. Where the level takes the place of
the text, the text is a field. -/
def request (c : Call) : Except Fault Request := do
  let method ← c.method
  c.takenName method.function method.ownArguments
  let logger := c.logger.asText?.getD ""
  let entry ← match method.level? with
    | some level => .ok ⟨level, logger, c.text, c.fields⟩
    | none => do
        let level ← levelOf c.text
        let text := (c.fields.get? textArgument).getD .null
        .ok ⟨level, logger, text, c.fields.erase textArgument⟩
  c.takenName sharedFunction [sharedArgument]
  .ok ⟨entry, method = .exception⟩

end Call

/-- The field of a log record, which is not for values of other kinds. -/
def recordField : Text := "_record"

namespace Entry

/-- The type of the value of a field, unless it is absent or null. -/
def givenType? (e : Entry) (field : Text) : Option Text :=
  match e.fields.get? field with
  | none | some .null => none
  | some value => some value.typeName

/-- The fault of a field that belongs below the columns of a line and holds no text. -/
def attachmentFault? (e : Entry) (field : Text) : Option Fault :=
  match e.fields.get? field with
  | none | some .null | some (.str _) => none
  | some value => some (.notText value.typeName)

def valueFault? (format : Format) (e : Entry) : Option Fault :=
  match (e.givenType? recordField).map Fault.notRecord, format with
  | some fault, _ => some fault
  | none, .json => none
  | none, .console => [stackField, exceptionField].findSome? e.attachmentFault?

end Entry

/-- The note on the exception at hand, of which there is none. -/
def exceptionNote : Text := "NoneType: None"

/-- A line with the note on a line of its own below it. -/
def withNote (line : Text) : Text :=
  (if line.points.getLast? == some (CodePoint.char '\n') then line else line ++ "\n") ++
    exceptionNote

namespace Settings

/-- What a call writes, which is nothing below the threshold. -/
def writeCall (s : Settings) (c : Call) : Except Fault Text := do
  let request ← c.request
  if s.threshold.admits request.entry.level then
    match request.entry.valueFault? s.format with
    | some fault => .error fault
    | none =>
        let line := line s.format request.entry.record
        .ok ((if request.withException then withNote line else line) ++ "\n")
  else .ok ""

/-- What calls write, unless one has a fault. -/
def writeCalls (s : Settings) (calls : List Call) : Except Fault Text :=
  Text.join <$> calls.mapM s.writeCall

end Settings
end TypeGraph.Log
