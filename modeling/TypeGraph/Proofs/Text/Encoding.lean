import Mathlib.Data.Set.List
import TypeGraph.Proofs.Except
import TypeGraph.Text.Encoding

/-!
Which texts can be written. A strict writer accepts a text exactly if it is made of characters only,
and otherwise stops at the first surrogate. A lenient writer changes no text that a strict one
accepts.
-/

namespace TypeGraph

def CodePoint.IsSurrogate (p : CodePoint) : Prop := ∃ place, p = surrogate place

namespace Text

/-- A text that is made of characters only. -/
def Encodable (t : Text) : Prop := ∃ s : String, t = s

/-- A fault is about the first surrogate of a text. -/
def EncodingFault.Meets (f : EncodingFault) (t : Text) : Prop :=
  ∃ (chars : List Char) (place : Fin 0x800) (rest : List CodePoint),
    t.points = chars.map .char ++ .surrogate place :: rest ∧
      f.position = chars.length ∧ f.first = (CodePoint.surrogate place).code

theorem encodable_iff {t : Text} : t.Encodable ↔ ∀ p ∈ t.points, ¬ p.IsSurrogate := by
  constructor
  · rintro ⟨s, rfl⟩ p hp ⟨place, rfl⟩
    obtain ⟨c, -, isChar⟩ := List.mem_map.mp hp
    cases isChar
  · intro none
    have chars : t.points ∈ Set.range (List.map CodePoint.char) := by
      rw [Set.range_list_map]
      intro p hp
      cases p with
      | char c => exact ⟨c, rfl⟩
      | surrogate place => exact absurd ⟨place, rfl⟩ (none _ hp)
    obtain ⟨chars, same⟩ := chars
    refine ⟨String.ofList chars, ext ?_⟩
    rw [ofString, String.toList_ofList]
    exact same.symm

theorem Encodable.of_sublist {t u : Text} (h : u.Encodable)
    (sublist : t.points.Sublist u.points) : t.Encodable :=
  encodable_iff.mpr fun p hp => encodable_iff.mp h p (sublist.subset hp)

theorem encodeFrom_eq_ok_iff {position : Nat} {points : List CodePoint} {chars : List Char} :
    encodeFrom position points = .ok chars ↔ points = chars.map .char := by
  induction points generalizing position chars with
  | nil => cases chars <;> simp [encodeFrom]
  | cons p rest ih =>
      cases p with
      | char c =>
          simp only [encodeFrom, Except.bind_eq_ok_iff, ih, Except.ok.injEq]
          cases chars with
          | nil => simp
          | cons d chars =>
              rw [List.map_cons, List.cons.injEq, CodePoint.char.injEq]
              constructor
              · rintro ⟨_, rest, rfl, rfl⟩
                exact ⟨rfl, rest⟩
              · rintro ⟨rfl, rest⟩
                exact ⟨_, rest, rfl⟩
      | surrogate place => cases chars <;> simp [encodeFrom]

theorem encodeFrom_eq_error {position : Nat} {points : List CodePoint} {f : EncodingFault}
    (h : encodeFrom position points = .error f) :
    ∃ (chars : List Char) (place : Fin 0x800) (rest : List CodePoint),
      points = chars.map .char ++ .surrogate place :: rest ∧
        f.position = position + chars.length ∧ f.first = (CodePoint.surrogate place).code := by
  induction points generalizing position with
  | nil => cases h
  | cons p rest ih =>
      cases p with
      | char c =>
          rw [encodeFrom, Except.bind_eq_error_iff] at h
          rcases h with failed | ⟨_, _, none⟩
          · obtain ⟨chars, place, after, split, hposition, hfirst⟩ := ih failed
            refine ⟨c :: chars, place, after, by rw [split]; rfl, ?_, hfirst⟩
            rw [hposition, List.length_cons]
            omega
          · cases none
      | surrogate place =>
          cases h
          exact ⟨[], place, rest, rfl, rfl, rfl⟩

theorem encode_eq_ok_iff {t : Text} {s : String} : t.encode = .ok s ↔ t = s := by
  rw [encode, Except.map_eq_ok_iff]
  constructor
  · rintro ⟨chars, encoded, rfl⟩
    rw [ofString, String.toList_ofList]
    exact ext (encodeFrom_eq_ok_iff.mp encoded)
  · rintro rfl
    exact ⟨s.toList, encodeFrom_eq_ok_iff.mpr rfl, String.ofList_toList⟩

theorem exists_fault_of_not_encodable {t : Text} (h : ¬ t.Encodable) :
    ∃ f, t.encode = .error f ∧ f.Meets t := by
  cases encoded : t.encode with
  | ok s => exact absurd ⟨s, encode_eq_ok_iff.mp encoded⟩ h
  | error f =>
      obtain ⟨chars, place, rest, split, position, first⟩ :=
        encodeFrom_eq_error (Except.map_eq_error_iff.mp encoded)
      exact ⟨f, rfl, chars, place, rest, split, position.trans (Nat.zero_add _), first⟩

theorem spelled_ofString (s : String) : spelled s = s := by
  rw [spelled, ofString, ofChars, List.flatMap_map]
  exact (congrArg String.ofList (List.flatMap_singleton' s.toList)).trans String.ofList_toList

end Text
end TypeGraph
