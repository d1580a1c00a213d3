import TypeGraph.Text.Basic
import TypeGraph.Text.Hex

/-!
Writing text in UTF-8, which has no place for surrogates. A strict writer refuses a text that has
one; a lenient writer spells surrogates out.
-/

namespace TypeGraph.Text

/-- The first surrogates of a text: where they start, the number of the first, and how many stand
in a row. -/
structure EncodingFault where
  position : Nat
  first : Nat
  length : Nat
deriving DecidableEq

/-- A surrogate as it is spelled out, by its number. -/
def surrogateEscape (code : Nat) : String := "\\u" ++ hexPadded 4 code

def EncodingFault.message (f : EncodingFault) : Text :=
  let place :=
    if f.length ≤ 1 then
      "character '" ++ surrogateEscape f.first ++ "' in position " ++ toString f.position
    else
      "characters in position " ++ toString f.position ++ "-" ++
        toString (f.position + f.length - 1)
  "'utf-8' codec can't encode " ++ place ++ ": surrogates not allowed"

/-- The characters of a text, read from a position onwards. -/
def encodeFrom (position : Nat) : List CodePoint → Except EncodingFault (List Char)
  | [] => .ok []
  | .char c :: rest => do
      let tail ← encodeFrom (position + 1) rest
      .ok (c :: tail)
  | .surrogate place :: rest =>
      let more := rest.takeWhile fun p => p.char?.isNone
      .error ⟨position, (CodePoint.surrogate place).code, more.length + 1⟩

/-- What a strict writer makes of a text. -/
def encode (t : Text) : Except EncodingFault String := (encodeFrom 0 t.points).map String.ofList

def spelledPoint : CodePoint → List Char
  | .char c => [c]
  | .surrogate place => (surrogateEscape (CodePoint.surrogate place).code).toList

/-- What a lenient writer makes of a text. -/
def spelled (t : Text) : String := String.ofList (t.points.flatMap spelledPoint)

end TypeGraph.Text
