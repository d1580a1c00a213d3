/-!
Line ends: a carriage return, alone or before a line feed, counts as one line feed.
-/

namespace TypeGraph.Text

def unifyNewlines : List Char → List Char
  | [] => []
  | '\r' :: '\n' :: rest => '\n' :: unifyNewlines rest
  | '\r' :: rest => '\n' :: unifyNewlines rest
  | c :: rest => c :: unifyNewlines rest

end TypeGraph.Text
