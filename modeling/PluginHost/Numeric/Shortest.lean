import PluginHost.Numeric.Binary64

/-!
# The shortest decimal that identifies a magnitude

The numbers that round to a magnitude form an interval around it. Of the decimals in the interval
those with the fewest digits are considered, and of these the one nearest to the magnitude is taken;
of two equally near ones the greater.
-/
namespace PluginHost.Numeric

/-- The decimal `digits * 10 ^ exponent`. -/
structure Decimal where
  /-- The digits, as a number. -/
  digits : Nat
  /-- The position of the last digit. -/
  exponent : Int
deriving DecidableEq, Repr

namespace Magnitude

/-- Compares `a * 10 ^ i` with `b * 2 ^ j`. -/
def compareScaled (a : Nat) (i : Int) (b : Nat) (j : Int) : Ordering :=
  compare (a * Nat.pow 10 i.toNat * Nat.pow 2 (-j).toNat)
    (b * Nat.pow 2 j.toNat * Nat.pow 10 (-i).toNat)

/-- Whether the gap to the next magnitude below is half the gap to the next one above. -/
def isNarrowBelow (x : Magnitude) : Bool :=
  x.significand = Nat.pow 2 (significandBits - 1) && minExponent < x.exponent

/-- Whether a decimal rounds to a magnitude: it lies between the points half way to the neighbours,
and on such a point only if the significand is even. -/
def readsBack (x : Magnitude) (d : Decimal) : Bool :=
  -- in quarters of a unit the points half way to either neighbour are whole
  let low := 4 * x.significand - (if x.isNarrowBelow then 1 else 2)
  let high := 4 * x.significand + 2
  let even := x.significand % 2 = 0
  let fromLow := compareScaled d.digits d.exponent low (x.exponent - 2)
  let fromHigh := compareScaled d.digits d.exponent high (x.exponent - 2)
  (fromLow == .gt || (even && fromLow == .eq)) && (fromHigh == .lt || (even && fromHigh == .eq))

/-- The magnitude in units of `10 ^ exponent`, rounded down. -/
def floorOn (x : Magnitude) (exponent : Int) : Nat :=
  (x.significand * Nat.pow 2 x.exponent.toNat * Nat.pow 10 (-exponent).toNat) /
    (Nat.pow 2 (-x.exponent).toNat * Nat.pow 10 exponent.toNat)

/-- The nearer of the two decimals with this exponent that enclose the magnitude, among those that
round to it. -/
def nearestOn? (x : Magnitude) (exponent : Int) : Option Decimal :=
  let below := x.floorOn exponent
  let lower : Decimal := ⟨below, exponent⟩
  let upper : Decimal := ⟨below + 1, exponent⟩
  match x.readsBack lower, x.readsBack upper with
  | true, true =>
    if compareScaled (2 * below + 1) exponent (2 * x.significand) x.exponent == .gt then some lower
    else some upper
  | true, false => some lower
  | false, true => some upper
  | false, false => none

/-- A position above the leading digit of the magnitude, found from its number of bits. -/
def topPosition (x : Magnitude) : Int :=
  -- 30103 / 100000 is a little more than the decimal logarithm of two
  (((x.significand.log2 : Int) + x.exponent + 1) * 30103) / 100000 + 1

/-- The first decimal found at ever lower positions of the last digit. -/
def search (x : Magnitude) : Nat → Int → Option Decimal
  | 0, _ => none
  | steps + 1, exponent =>
    match x.nearestOn? exponent with
    | some found => some found
    | none => x.search steps (exponent - 1)

/-- The decimal without the zeros at its end. At most `steps` zeros are dropped. -/
def dropZeros : Nat → Decimal → Decimal
  | 0, d => d
  | steps + 1, d =>
    if d.digits ≠ 0 ∧ d.digits % 10 = 0 then dropZeros steps ⟨d.digits / 10, d.exponent + 1⟩ else d

/-- The shortest decimal that rounds to a magnitude. Seventeen digits always suffice. -/
def shortest (x : Magnitude) : Decimal :=
  if x.significand = 0 then ⟨0, 0⟩
  else dropZeros 20 ((x.search 20 x.topPosition).getD ⟨x.floorOn minExponent, minExponent⟩)

end Magnitude

namespace Decimal

/-- The characters of a decimal without an exponent. Digits after the point are written only where
there are any. -/
def positional (d : Decimal) : List Char :=
  let digits := decimalDigits d.digits
  if 0 ≤ d.exponent then digits ++ List.replicate d.exponent.toNat '0'
  else
    let places := (-d.exponent).toNat
    let padded := List.replicate (places + 1 - digits.length) '0' ++ digits
    padded.take (padded.length - places) ++ '.' :: padded.drop (padded.length - places)

/-- The characters of a decimal without an exponent and with at least one digit after the point. -/
def positionalWithPoint (d : Decimal) : List Char :=
  let characters := d.positional
  if characters.contains '.' then characters else characters ++ ['.', '0']

end Decimal

end PluginHost.Numeric
