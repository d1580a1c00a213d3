import TypeGraph.Number.Binary64

/-!
The decimal text of a double-precision number: the fewest digits that read back as the same
number and, among those, the nearest to it. Digits are sought on the grids of one, two, … up
to seventeen digits, each time at the two neighbours of the exact value, in exact arithmetic.
-/

namespace TypeGraph.Binary64

/-- How many digits always suffice to tell two numbers apart. -/
def sufficientDigits : Nat := 17

/-- A positive number in quarter units of its last place, with the ends of the interval of
reals that round to it, and a quarter unit as the quotient `unitNum / unitDen`. -/
structure Neighbourhood where
  lower : Nat
  value : Nat
  upper : Nat
  unitNum : Nat
  unitDen : Nat
  /-- Whether the ends themselves round to the number. -/
  closed : Bool

/-- Below a power of two the numbers are twice as dense, unless the exponent is the least. -/
def neighbourhood (significand : Nat) (exponent : Int) : Neighbourhood :=
  let dense := significand == Nat.pow 2 (significandBits - 1) && minExponent < exponent
  { lower := 4 * significand - (if dense then 1 else 2)
    value := 4 * significand
    upper := 4 * significand + 2
    unitNum := Nat.pow 2 (exponent - 2).toNat
    unitDen := Nat.pow 2 (2 - exponent).toNat
    closed := significand % 2 == 0 }

/-- The exponent `e` with `10 ^ e ≤ num / den < 10 ^ (e + 1)`, for a positive quotient. -/
def floorLog10 (num den : Nat) : Int :=
  if den ≤ num then (decimalLength (num / den) : Int) - 1
  else
    let places := decimalLength (den / num)
    if num * Nat.pow 10 (places - 1) = den then 1 - (places : Int) else -(places : Int)

/-- The point of the grid `10 ^ power` that reads back and is nearest to the number, an exact
tie going to the even point; none if neither neighbour reads back. -/
def Neighbourhood.nearestOn (n : Neighbourhood) (power : Int) : Option Nat :=
  let step := Nat.pow 10 power.toNat * n.unitDen
  let unit := n.unitNum * Nat.pow 10 (-power).toNat
  let below := n.value * unit / step
  let above := below + 1
  let belowFits := n.lower * unit < below * step ||
    (n.closed && n.lower * unit == below * step)
  let aboveFits := above * step < n.upper * unit ||
    (n.closed && above * step == n.upper * unit)
  if belowFits && aboveFits then
    let gap := 2 * (n.value * unit)
    let middle := (below + above) * step
    if gap < middle then some below
    else if middle < gap then some above
    else some (if below % 2 == 0 then below else above)
  else if belowFits then some below
  else if aboveFits then some above
  else none

/-- Drop final zeros, raising the power of ten instead. -/
def dropZeros : Nat → Nat → Int → Nat × Int
  | 0, digits, power => (digits, power)
  | fuel + 1, digits, power =>
      if digits % 10 = 0 then dropZeros fuel (digits / 10) (power + 1) else (digits, power)

/-- The digits and the power of ten of the shortest decimal of a positive number. -/
def shortestDecimal (significand : Nat) (exponent : Int) : Nat × Int :=
  let n := neighbourhood significand exponent
  let top := floorLog10 (n.value * n.unitNum) n.unitDen
  let grids := (List.range sufficientDigits).map fun (i : Nat) => top - (i : Int)
  let found := grids.findSome? fun power => (n.nearestOn power).map fun digits => (digits, power)
  let (digits, power) := found.getD (0, 0)
  dropZeros sufficientDigits digits power

/-- How a decimal is laid out: positional notation for exponents from `positionalFrom` up to
but excluding `positionalUntil`, and at least `exponentWidth` digits in a written exponent. -/
structure Layout where
  positionalFrom : Int
  positionalUntil : Int
  exponentWidth : Nat

/-- Positional from 0.0001 up to 10 to the 16, exponents of two digits at least. -/
def standardLayout : Layout := ⟨-4, 16, 2⟩

def padLeft (width : Nat) (text : String) : String :=
  String.ofList (List.replicate (width - text.length) '0') ++ text

/-- Lay out `digits * 10 ^ power`; positional text always has a fractional part. -/
def Layout.write (layout : Layout) (digits : Nat) (power : Int) : String :=
  let text := toString digits
  let count := text.length
  let exponent := power + count - 1
  if layout.positionalFrom ≤ exponent ∧ exponent < layout.positionalUntil then
    if 0 ≤ power then text ++ String.ofList (List.replicate power.toNat '0') ++ ".0"
    else if 0 ≤ exponent then
      let whole := (exponent + 1).toNat
      String.ofList (text.toList.take whole) ++ "." ++ String.ofList (text.toList.drop whole)
    else "0." ++ String.ofList (List.replicate (-exponent - 1).toNat '0') ++ text
  else
    let mantissa := match text.toList with
      | first :: second :: rest => String.ofList (first :: '.' :: second :: rest)
      | _ => text
    let sign := if exponent < 0 then "-" else "+"
    mantissa ++ "e" ++ sign ++ padLeft layout.exponentWidth (toString exponent.natAbs)

/-- What a notation calls the numbers that have no digits. -/
structure Names where
  infinity : String
  nan : String

/-- The text of a number; a negative zero keeps its sign. -/
def text (names : Names) : Binary64 → String
  | nan => names.nan
  | infinite negative => (if negative then "-" else "") ++ names.infinity
  | finite negative s e =>
      let sign := if negative then "-" else ""
      if s = 0 then sign ++ "0.0"
      else
        let (digits, power) := shortestDecimal s e
        sign ++ standardLayout.write digits power

end TypeGraph.Binary64
