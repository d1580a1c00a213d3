import TypeGraph.Text.Basic

/-!
Terminal control sequences, which have no place in text that does not go to a terminal: an
escape, an opening bracket, parameters, intermediate characters and a final one. The three
classes are ranges of the printable characters and do not overlap.
-/

namespace TypeGraph

def CodePoint.isBetween (first last : Char) : CodePoint → Bool
  | char c => first ≤ c && c ≤ last
  | surrogate _ => false

namespace Text

/-- The escape, with which every control sequence begins. -/
def controlEscape : CodePoint := .char '\x1b'

/-- Digits, and the separators and private marks next to them. -/
def isControlParameter (p : CodePoint) : Bool := p.isBetween '0' '?'

/-- The space and the marks before the digits. -/
def isControlIntermediate (p : CodePoint) : Bool := p.isBetween ' ' '/'

/-- Letters, and the marks around them. -/
def isControlFinal (p : CodePoint) : Bool := p.isBetween '@' '~'

/-- What follows a control sequence, given what follows its escape. -/
def afterControl? : List CodePoint → Option (List CodePoint)
  | .char '[' :: text =>
      match (text.dropWhile isControlParameter).dropWhile isControlIntermediate with
      | p :: rest => if isControlFinal p then some rest else none
      | [] => none
  | _ => none

theorem afterControl?_suffix {text rest : List CodePoint} (h : afterControl? text = some rest) :
    rest <:+ text := by
  unfold afterControl? at h
  split at h
  · rename_i text
    have tail : (text.dropWhile isControlParameter).dropWhile isControlIntermediate <:+ text :=
      (List.dropWhile_suffix _).trans (List.dropWhile_suffix _)
    split at h
    · rename_i p rest heq
      split at h
      · cases h
        rw [heq] at tail
        exact (List.suffix_cons ..).trans (tail.trans (List.suffix_cons ..))
      · cases h
    · cases h
  · cases h

def dropControlsFrom (points : List CodePoint) : List CodePoint :=
  match points with
  | [] => []
  | p :: rest =>
      if p = controlEscape then
        match h : afterControl? rest with
        | some after =>
            have := (afterControl?_suffix h).length_le
            dropControlsFrom after
        | none => p :: dropControlsFrom rest
      else p :: dropControlsFrom rest
termination_by points.length
decreasing_by all_goals simp only [List.length_cons]; omega

/-- A text without its control sequences. -/
def dropControls (t : Text) : Text := ⟨dropControlsFrom t.points⟩

end Text
end TypeGraph
