/-!
Lower-case hexadecimal digits, padded to a width.
-/

namespace TypeGraph.Text

def hexPadded (width n : Nat) : String :=
  let digits := Nat.toDigits 16 n
  String.ofList (List.replicate (width - digits.length) '0' ++ digits)

end TypeGraph.Text
