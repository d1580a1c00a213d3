import TypeGraph.Loader.Basic
import TypeGraph.Text.File

/-!
Loaders from the content of a file, which is one JSON document.
-/

namespace TypeGraph.Loader

/-- A loader for the file at a path, from its content. -/
def ofFile (path : Text) (bytes : List UInt8) : Except LoadFailure Loader := do
  let text ← (Text.decodeFile bytes).mapError .undecodable
  let document ← (Json.parse text).mapError fun fault => .graph (.invalidText path fault)
  (ofDocument document).mapError .graph

end TypeGraph.Loader
