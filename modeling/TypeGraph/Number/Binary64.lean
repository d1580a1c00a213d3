/-!
Double-precision numbers held exactly: a finite one is a sign, a significand and a power of
two. Reading a decimal rounds it once, to the nearest representable number, a tie going to
the even significand. Comparison is comparison of the exact values.
-/

namespace TypeGraph

inductive Binary64
  /-- The number `significand * 2 ^ exponent`, negated or not. -/
  | finite (negative : Bool) (significand : Nat) (exponent : Int)
  | infinite (negative : Bool)
  | nan
deriving DecidableEq

namespace Binary64

/-- The least exponent; numbers below it lose significant bits. -/
def minExponent : Int := -1074

/-- The greatest exponent of a finite number. -/
def maxExponent : Int := 971

def significandBits : Nat := 53

/-- A quotient rounded to the nearest integer, a half to the even one. -/
def roundHalfEven (num den : Nat) : Nat :=
  let q := num / den
  let r := num % den
  if 2 * r < den then q else if den < 2 * r then q + 1 else q + q % 2

/-- The exponent `e` with `2 ^ e ≤ num / den < 2 ^ (e + 1)`, for a positive quotient. -/
def floorLog2 (num den : Nat) : Int :=
  let guess : Int := (num.log2 : Int) - (den.log2 : Int)
  if num * Nat.pow 2 (-guess).toNat < den * Nat.pow 2 guess.toNat then guess - 1 else guess

/-- The number nearest to a quotient. -/
def ofRatio (negative : Bool) (num den : Nat) : Binary64 :=
  if num = 0 then finite negative 0 minExponent
  else
    let e := max (floorLog2 num den - (significandBits - 1 : Nat)) minExponent
    let s := roundHalfEven (num * Nat.pow 2 (-e).toNat) (den * Nat.pow 2 e.toNat)
    let (s, e) :=
      if s = Nat.pow 2 significandBits then (Nat.pow 2 (significandBits - 1), e + 1) else (s, e)
    if maxExponent < e then infinite negative else finite negative s e

/-- The number of decimal digits of a natural number. -/
def decimalLength (n : Nat) : Nat := (Nat.toDigits 10 n).length

/-- The number nearest to `digits * 10 ^ exponent`. A decimal far above the greatest number or
far below the least is settled by its length, before any power is computed. -/
def ofDecimal (negative : Bool) (digits : Nat) (exponent : Int) : Binary64 :=
  if digits = 0 then finite negative 0 minExponent
  else
    let magnitude := (decimalLength digits : Int) + exponent
    if 400 < magnitude then infinite negative
    else if magnitude < -400 then finite negative 0 minExponent
    else ofRatio negative (digits * Nat.pow 10 exponent.toNat) (Nat.pow 10 (-exponent).toNat)

def isZero : Binary64 → Bool
  | finite _ s _ => s == 0
  | _ => false

/-- Whether a finite number equals an integer exactly. -/
def equalsInt (n : Int) : Binary64 → Bool
  | finite negative s e =>
      let scaled : Int := (s * Nat.pow 2 e.toNat : Nat)
      (if negative then -scaled else scaled) == n * (Nat.pow 2 (-e).toNat : Nat)
  | _ => false

/-- Equality of values: the two zeros are equal, and "not a number" is held equal to itself. -/
def sameValue : Binary64 → Binary64 → Bool
  | finite n₁ s₁ e₁, finite n₂ s₂ e₂ =>
      (s₁ == 0 && s₂ == 0) ||
        (n₁ == n₂ && s₁ * Nat.pow 2 (e₁ - e₂).toNat == s₂ * Nat.pow 2 (e₂ - e₁).toNat)
  | infinite n₁, infinite n₂ => n₁ == n₂
  | nan, nan => true
  | _, _ => false

/-- The least exponent's power of two, with which every finite number becomes an integer. -/
def unit : Nat := Nat.pow 2 (-minExponent).toNat

/-- Where a number stands among all numbers: first which side of the finite ones, then its exact
value in units of the least positive number. Nothing places what is not a number. -/
def place? : Binary64 → Option (Int × Int)
  | finite negative s e =>
      let scaled : Int := (s * Nat.pow 2 (e - minExponent).toNat : Nat)
      some (0, if negative then -scaled else scaled)
  | infinite negative => some (if negative then -1 else 1, 0)
  | nan => none

end Binary64
end TypeGraph
