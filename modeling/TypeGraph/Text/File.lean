import TypeGraph.Text.Newline
import TypeGraph.Text.Utf8

/-!
The text of a file: UTF-8, with line ends made uniform.
-/

namespace TypeGraph.Text

def decodeFile (bytes : List UInt8) : Except Utf8.Fault (List Char) :=
  (Utf8.decode bytes).map unifyNewlines

end TypeGraph.Text
