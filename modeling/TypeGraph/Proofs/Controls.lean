import TypeGraph.Text.Terminal

/-!
What is known of leaving out control sequences, whichever sequences count as such: parts of the text
are left out, and each part begins with an escape.
-/

namespace TypeGraph.Text

/-- A text without any escape, and so without control sequences. -/
def Unescaped (t : Text) : Prop := controlEscape ∉ t.points

instance (t : Text) : Decidable t.Unescaped :=
  inferInstanceAs (Decidable (controlEscape ∉ t.points))

/-- A function that leaves control sequences out. -/
structure LeavesOutControls (f : Text → Text) : Prop where
  sublist : ∀ t, (f t).points.Sublist t.points
  unescaped : ∀ t : Text, t.Unescaped → f t = t

theorem dropControlsFrom_sublist (points : List CodePoint) :
    (dropControlsFrom points).Sublist points := by
  fun_induction dropControlsFrom points with
  | case1 => exact .slnil
  | case2 rest after h _ ih => exact .cons _ (ih.trans (afterControl?_suffix h).sublist)
  | case3 rest _ ih | case4 p rest _ ih => exact ih.cons_cons _

theorem dropControlsFrom_eq_self {points : List CodePoint} (h : controlEscape ∉ points) :
    dropControlsFrom points = points := by
  induction points with
  | nil => rw [dropControlsFrom]
  | cons p rest ih =>
      rw [List.mem_cons, not_or] at h
      rw [dropControlsFrom, if_neg (Ne.symm h.1), ih h.2]

theorem leavesOutControls_dropControls : LeavesOutControls dropControls where
  sublist t := dropControlsFrom_sublist t.points
  unescaped _ h := ext (dropControlsFrom_eq_self h)

end TypeGraph.Text
