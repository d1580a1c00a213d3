import TypeGraph.Text.Basic
import TypeGraph.Text.Hex
import TypeGraph.Text.Printable

/-!
Text in quotes. Single quotes are used unless the text has a single quote and no double one.
Backslashes, the quote in use and line breaks are escaped, and so is every character that is
not printable, by the shortest of three hexadecimal forms.
-/

namespace TypeGraph.Text.Quoted

/-- The quote that a text is put in. -/
def quoteFor (text : Text) : Char :=
  if text.points.contains ('\'' : CodePoint) && !text.points.contains ('"' : CodePoint) then '"'
  else '\''

/-- The hexadecimal escape of a code point, of two, four or eight digits. -/
def escapeCode (code : Nat) : Text :=
  if code < 0x100 then "\\x" ++ hexPadded 2 code
  else if code < 0x10000 then "\\u" ++ hexPadded 4 code
  else "\\U" ++ hexPadded 8 code

def encodeChar (quote c : Char) : Text :=
  if c = quote || c = '\\' then .ofChars ['\\', c]
  else if c = '\n' then "\\n"
  else if c = '\r' then "\\r"
  else if c = '\t' then "\\t"
  else if isPrintable c then .ofPoint c
  else escapeCode c.toNat

/-- Surrogates are not printable. -/
def encodePoint (quote : Char) : CodePoint → Text
  | .char c => encodeChar quote c
  | .surrogate place => escapeCode (CodePoint.surrogate place).code

def encode (text : Text) : Text :=
  let quote := quoteFor text
  .ofPoint quote ++ .join (text.points.map (encodePoint quote)) ++ .ofPoint quote

end TypeGraph.Text.Quoted
