import TypeGraph.Json.Basic
import TypeGraph.Number.Shortest
import TypeGraph.Text.Hex

/-!
Writing JSON text in ASCII, on one line: a comma and a colon are followed by a space, and a
character outside the space to the tilde is escaped, by its UTF-16 units if it has no short
escape.
-/

namespace TypeGraph.Json

def escapeUnit (unit : Nat) : Text := "\\u" ++ Text.hexPadded 4 unit

def escapeChar (c : Char) : Text :=
  if c = '"' || c = '\\' then .ofChars ['\\', c]
  else if c = '\n' then "\\n"
  else if c = '\r' then "\\r"
  else if c = '\t' then "\\t"
  else if c = '\x08' then "\\b"
  else if c = '\x0c' then "\\f"
  else if ' ' ≤ c ∧ c ≤ '~' then .ofPoint c
  else if c.toNat < 0x10000 then escapeUnit c.toNat
  else
    let offset := c.toNat - 0x10000
    escapeUnit (0xD800 + offset / 0x400) ++ escapeUnit (0xDC00 + offset % 0x400)

def escapePoint : CodePoint → Text
  | .char c => escapeChar c
  | .surrogate place => escapeUnit (CodePoint.surrogate place).code

def quoted (text : Text) : Text :=
  "\"" ++ Text.join (text.points.map escapePoint) ++ "\""

/-- The names that JSON text gives to the numbers without digits. -/
def numberNames : Binary64.Names := ⟨"Infinity", "NaN"⟩

mutual

def print : Json → Text
  | null => "null"
  | bool b => if b then "true" else "false"
  | int n => toString n
  | float x => x.text numberNames
  | str s => quoted s
  | arr items => "[" ++ Text.intercalate ", " (printItems items) ++ "]"
  | obj fields => "\x7b" ++ Text.intercalate ", " (printFields fields) ++ "\x7d"

def printItems : List Json → List Text
  | [] => []
  | item :: rest => print item :: printItems rest

def printFields : List (Text × Json) → List Text
  | [] => []
  | (name, value) :: rest => (quoted name ++ ": " ++ print value) :: printFields rest

end

end TypeGraph.Json
