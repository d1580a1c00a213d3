import TypeGraph.Json.Basic
import TypeGraph.Log.Level
import TypeGraph.Mapping

/-!
Log entries: a level, a logger, a text and named fields.
-/

namespace TypeGraph.Log

structure Entry where
  level : Level
  logger : Text
  /-- The text, as a rule; null for none. -/
  text : Json
  fields : Mapping Json

/-- The component of an entry that names no logger. -/
def defaultComponent : Text := "schema_datatypes"

/-- Tag fields with the component they come from, which is their logger. -/
def addComponent (fields : Mapping Json) : Mapping Json :=
  fields.set "component" ((fields.get? "logger").getD (.str defaultComponent))

/-- A value of the given type is no mapping of fields. -/
structure NotFields where
  typeName : Text

def NotFields.message (e : NotFields) : Text :=
  "'" ++ e.typeName ++ "' object has no attribute 'get'"

/-- Tag fields that are not known to be a mapping. -/
def addComponentTo : Json → Except NotFields (Mapping Json)
  | .obj fields => .ok (addComponent (Mapping.ofList fields))
  | value => .error ⟨value.typeName⟩

/-- The logger without a name is the root of all. -/
def loggerName (logger : Text) : Text := if logger = "" then "root" else logger

/-- Fields that ask for the stack or the exception at hand. There is none at hand, so the request
is dropped. -/
def requestFields : List Text := ["stack_info", "exc_info"]

/-- All that a line shows of an entry, in order: its own fields first. -/
def Entry.record (e : Entry) : Mapping Json :=
  let fields := requestFields.foldl Mapping.erase e.fields
  let fields := if e.text.isNull then fields else fields.set "event" e.text
  let fields := fields.set "logger" (.str (loggerName e.logger))
  addComponent (fields.set "level" (.str e.level.name))

end TypeGraph.Log
