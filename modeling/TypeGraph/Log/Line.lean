import TypeGraph.Json.Literal
import TypeGraph.Json.Printer
import TypeGraph.Log.Entry
import TypeGraph.NameSet

/-!
Log lines. A line is either the JSON text of all fields in order, or a console line: leading
columns for level, text and logger, then the other fields by name. On the console a stack and an
exception, which are text of many lines, follow below.
-/

namespace TypeGraph.Log

inductive Format
  | console
  | json
deriving DecidableEq

/-- Fill up with spaces on the right to a width in characters. -/
def padRight (width : Nat) (text : Text) : Text :=
  text ++ .ofChars (List.replicate (width - text.length) ' ')

def levelWidth : Nat := 9
def textWidth : Nat := 30

/-- Characters that make a text ambiguous on a console line. -/
def ambiguousChars : List Char := [' ', '\t', '\r', '\n', '=', '"', '\'']

def needsQuotes (text : Text) : Bool :=
  text.points.any fun p => p.char?.any ambiguousChars.contains

def consoleValue : Json → Text
  | .str s => if needsQuotes s then Text.Quoted.encode s else s
  | value => value.literal

/-- A field with its name before it. -/
def namedField (field : Text) (value : Json) : Text := field ++ "=" ++ consoleValue value

/-- Columns that stand before all other fields, each with the way it is shown. The first one is
that of the field without a name. -/
def leadingColumns : List (Text × (Json → Text)) := [
  ("", namedField ""),
  ("timestamp", Json.display),
  ("level", fun v => "[" ++ padRight levelWidth v.display ++ "]"),
  ("event", fun v => padRight textWidth v.display),
  ("logger", fun v => "[" ++ v.display ++ "]"),
  ("logger_name", fun v => "[" ++ v.display ++ "]")]

def dropFinalSpaces (text : Text) : Text :=
  ⟨(text.points.reverse.dropWhile (· == CodePoint.char ' ')).reverse⟩

def stackField : Text := "stack"
def exceptionField : Text := "exception"

/-- What separates an exception from the stack above it. -/
def separator : Text := "\n\n" ++ Text.ofChars (List.replicate 79 '=') ++ "\n"

/-- The stack and the exception of a record, below its columns. -/
def attachments (record : Mapping Json) : Text :=
  let text? (field : Text) := (record.get? field).bind Json.asText?
  match text? stackField, text? exceptionField with
  | none, none => ""
  | some stack, none => "\n" ++ stack
  | none, some exception => "\n" ++ exception
  | some stack, some exception => "\n" ++ stack ++ separator ++ "\n" ++ exception

/-- Whether a field is shown by its name among others. -/
def isNamed (field : Text) : Bool :=
  !(stackField :: exceptionField :: leadingColumns.map Prod.fst).contains field

def columns (record : Mapping Json) : Text :=
  let leading := leadingColumns.filterMap fun column => (record.get? column.1).map column.2
  let named := (NameSet.ofList (record.keys.filter isNamed)).toList.map fun field =>
    namedField field ((record.get? field).getD .null)
  dropFinalSpaces (Text.intercalate " " ((leading ++ named).filter (· != "")))

def consoleLine (record : Mapping Json) : Text := columns record ++ attachments record

def line (format : Format) (record : Mapping Json) : Text :=
  match format with
  | .console => consoleLine record
  | .json => (Json.obj record.entries).print

/-- How entries are written: which ones, and in which form. -/
structure Settings where
  threshold : Threshold
  format : Format

/-- Settings from a threshold and a flag for JSON lines, neither of them checked before. -/
def Settings.ofOptions (level json : Json) : Except Threshold.Error Settings := do
  let threshold ← Threshold.ofJson level
  .ok ⟨threshold, if json.holds then .json else .console⟩

/-- The lines of the entries that pass the threshold. -/
def Settings.write (s : Settings) (entries : List Entry) : Text :=
  Text.join ((entries.filter fun e => s.threshold.admits e.level).map fun e =>
    line s.format e.record ++ "\n")

end TypeGraph.Log
