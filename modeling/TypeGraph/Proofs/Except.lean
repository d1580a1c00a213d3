/-!
What a computation that may fail comes to, read off the computation that it was made from. One is
below another if the other comes to the same whenever it comes to anything.
-/

namespace TypeGraph.Except

variable {ε ε' α β : Type}

theorem bind_eq_ok_iff {x : Except ε α} {f : α → Except ε β} {b : β} :
    x >>= f = .ok b ↔ ∃ a, x = .ok a ∧ f a = .ok b := by
  cases x with
  | error e => simp [bind, Except.bind]
  | ok a => simp [bind, Except.bind]

theorem bind_eq_error_iff {x : Except ε α} {f : α → Except ε β} {e : ε} :
    x >>= f = .error e ↔ x = .error e ∨ ∃ a, x = .ok a ∧ f a = .error e := by
  cases x with
  | error _ => simp [bind, Except.bind]
  | ok _ => simp [bind, Except.bind]

theorem map_eq_ok_iff {x : Except ε α} {f : α → β} {b : β} :
    x.map f = .ok b ↔ ∃ a, x = .ok a ∧ f a = b := by
  cases x with
  | error e => simp [Except.map]
  | ok a => simp [Except.map]

theorem map_eq_error_iff {x : Except ε α} {f : α → β} {e : ε} :
    x.map f = .error e ↔ x = .error e := by
  cases x <;> simp [Except.map]

theorem mapError_eq_ok_iff {x : Except ε α} {f : ε → ε'} {a : α} :
    x.mapError f = .ok a ↔ x = .ok a := by
  cases x with
  | error e =>
      constructor
      · rintro ⟨⟩
      · rintro ⟨⟩
  | ok b =>
      constructor
      · rintro ⟨⟩
        rfl
      · rintro ⟨⟩
        rfl

theorem mapError_eq_error_iff {x : Except ε α} {f : ε → ε'} {e : ε'} :
    x.mapError f = .error e ↔ ∃ e', x = .error e' ∧ e = f e' := by
  cases x with
  | error e' =>
      constructor
      · rintro ⟨⟩
        exact ⟨e', rfl, rfl⟩
      · rintro ⟨_, same, rfl⟩
        exact congrArg (Except.mapError f) same
  | ok b =>
      constructor
      · rintro ⟨⟩
      · rintro ⟨_, ⟨⟩, -⟩

/-- Whatever the first computation comes to, the second one comes to as well. -/
def Below (x y : Except ε α) : Prop := ∀ a, x = .ok a → y = .ok a

section Below

variable {x y : Except ε α}

theorem Below.refl (x : Except ε α) : Below x x := fun _ => id

theorem Below.bind {f g : α → Except ε β} (h : Below x y) (each : ∀ a, Below (f a) (g a)) :
    Below (x >>= f) (y >>= g) := by
  intro b hb
  obtain ⟨a, ha, hb⟩ := bind_eq_ok_iff.mp hb
  exact bind_eq_ok_iff.mpr ⟨a, h a ha, each a b hb⟩

theorem Below.map (h : Below x y) (f : α → β) : Below (x.map f) (y.map f) := by
  intro b hb
  obtain ⟨a, ha, hb⟩ := map_eq_ok_iff.mp hb
  exact map_eq_ok_iff.mpr ⟨a, h a ha, hb⟩

theorem Below.mapError (h : Below x y) (f : ε → ε') : Below (x.mapError f) (y.mapError f) :=
  fun a ha => mapError_eq_ok_iff.mpr (h a (mapError_eq_ok_iff.mp ha))

theorem below_mapM {f g : α → Except ε β} (each : ∀ a, Below (f a) (g a)) (l : List α) :
    Below (l.mapM f) (l.mapM g) := by
  induction l with
  | nil => exact .refl _
  | cons a l ih =>
      rw [List.mapM_cons, List.mapM_cons]
      exact (each a).bind fun _ => ih.bind fun _ => .refl _

theorem below_foldlM {f g : β → α → Except ε β} (each : ∀ b a, Below (f b a) (g b a)) (l : List α)
    (b : β) : Below (l.foldlM f b) (l.foldlM g b) := by
  induction l generalizing b with
  | nil => exact .refl _
  | cons a l ih =>
      rw [List.foldlM_cons, List.foldlM_cons]
      exact (each b a).bind ih

end Below

end TypeGraph.Except
