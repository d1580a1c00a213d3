/-!
Texts: sequences of code points. Besides characters a text may hold surrogates, which a JSON
escape can write without the other half of a pair and which no encoding has. Texts are ordered by
their code points.
-/

namespace TypeGraph

inductive CodePoint
  | char (c : Char)
  /-- A surrogate that stands alone, by its place among all surrogates. -/
  | surrogate (place : Fin 0x800)
deriving DecidableEq

namespace CodePoint

instance : Coe Char CodePoint := ⟨char⟩

/-- The first of all surrogates. -/
def firstSurrogate : Nat := 0xD800

def code : CodePoint → Nat
  | char c => c.toNat
  | surrogate place => firstSurrogate + place.val

/-- The code point of a number, which has to be the number of one. -/
def ofCode (code : Nat) : CodePoint :=
  if h : firstSurrogate ≤ code ∧ code < firstSurrogate + 0x800 then
    .surrogate ⟨code - firstSurrogate, by omega⟩
  else .char (Char.ofNat code)

def char? : CodePoint → Option Char
  | char c => some c
  | surrogate _ => none

theorem code_injective {p q : CodePoint} (h : p.code = q.code) : p = q := by
  have apart (c : Char) (place : Fin 0x800) : c.toNat ≠ firstSurrogate + place.val := by
    have := c.valid
    have := place.isLt
    simp only [Char.toNat, UInt32.isValidChar, Nat.isValidChar, firstSurrogate] at *
    omega
  cases p with
  | char c =>
      cases q with
      | char d => exact congrArg char (Char.toNat_inj.mp h)
      | surrogate place => exact absurd h (apart c place)
  | surrogate place =>
      cases q with
      | char d => exact absurd h.symm (apart d place)
      | surrogate place' => exact congrArg surrogate (Fin.ext (Nat.add_left_cancel h))

end CodePoint

structure Text where
  points : List CodePoint
deriving DecidableEq

namespace Text

theorem ext {a b : Text} (h : a.points = b.points) : a = b := by
  cases a; cases b; cases h; rfl

def ofChars (chars : List Char) : Text := ⟨chars.map .char⟩

def ofString (s : String) : Text := ofChars s.toList

instance : Coe String Text := ⟨ofString⟩

instance : Inhabited Text := ⟨""⟩

def ofPoint (p : CodePoint) : Text := ⟨[p]⟩

def append (a b : Text) : Text := ⟨a.points ++ b.points⟩

instance : Append Text := ⟨append⟩

def join (texts : List Text) : Text := ⟨texts.flatMap points⟩

def intercalate (separator : Text) (texts : List Text) : Text :=
  join (texts.intersperse separator)

def length (t : Text) : Nat := t.points.length

def codes (t : Text) : List Nat := t.points.map CodePoint.code

instance : LT Text := ⟨fun a b => a.codes < b.codes⟩

instance (a b : Text) : Decidable (a < b) := inferInstanceAs (Decidable (a.codes < b.codes))

theorem codes_injective {a b : Text} (h : a.codes = b.codes) : a = b :=
  ext (List.map_inj_right (fun _ _ => CodePoint.code_injective) |>.mp h)

theorem lt_trans {a b c : Text} (hab : a < b) (hbc : b < c) : a < c :=
  List.lt_trans hab hbc

theorem lt_irrefl (a : Text) : ¬ a < a := List.lt_irrefl a.codes

instance : Std.Irrefl (α := Text) (· < ·) := ⟨lt_irrefl⟩

instance : Std.Antisymm (α := Text) (· < ·) :=
  ⟨fun a _ hab hba => absurd (lt_trans hab hba) (lt_irrefl a)⟩

theorem lt_of_not_lt_of_ne {a b : Text} (h : ¬ a < b) (ne : a ≠ b) : b < a :=
  Decidable.byContradiction fun h' =>
    ne (codes_injective (List.le_antisymm (List.not_lt.mp h') (List.not_lt.mp h)))

@[simp] theorem points_append (a b : Text) : (a ++ b).points = a.points ++ b.points := rfl

@[simp] theorem points_empty : ("" : Text).points = [] := rfl

@[simp] theorem append_empty (t : Text) : t ++ ("" : Text) = t := ext (List.append_nil _)

@[simp] theorem empty_append (t : Text) : ("" : Text) ++ t = t := rfl

@[simp] theorem append_eq_empty_iff {a b : Text} : a ++ b = ("" : Text) ↔ a = "" ∧ b = "" := by
  cases a; cases b
  exact (mk.injEq ..).to_iff.trans <| List.append_eq_nil_iff.trans <|
    and_congr (mk.injEq ..).symm.to_iff (mk.injEq ..).symm.to_iff

theorem append_assoc (a b c : Text) : a ++ b ++ c = a ++ (b ++ c) := ext (List.append_assoc _ _ _)

theorem append_right_inj {a b : Text} (t : Text) : t ++ a = t ++ b ↔ a = b :=
  ⟨fun h => ext (List.append_cancel_left (congrArg points h)), fun h => h ▸ rfl⟩

theorem append_left_inj {a b : Text} (t : Text) : a ++ t = b ++ t ↔ a = b :=
  ⟨fun h => ext (List.append_cancel_right (congrArg points h)), fun h => h ▸ rfl⟩

theorem ofString_injective {s t : String} (h : ofString s = ofString t) : s = t := by
  have chars : s.toList = t.toList :=
    (List.map_inj_right fun _ _ => CodePoint.char.inj).mp (congrArg points h)
  exact String.toList_inj.mp chars

@[simp] theorem ofString_inj {s t : String} : ofString s = ofString t ↔ s = t :=
  ⟨ofString_injective, congrArg ofString⟩

@[simp] theorem ofString_beq (s t : String) : (ofString s == ofString t) = (s == t) := by
  rw [Bool.eq_iff_iff, beq_iff_eq, beq_iff_eq, ofString_inj]

@[simp] theorem join_nil : join [] = "" := rfl

@[simp] theorem join_cons (t : Text) (ts : List Text) : join (t :: ts) = t ++ join ts := rfl

end Text
end TypeGraph
