import PluginHost.Numeric.Numeral
import PluginHost.Numeric.Rounding

/-!
# Binary floating point of 64 bits

A magnitude is a significand below `2 ^ 53` times a power of two. Decimal numbers are rounded to the
nearest magnitude, ties to the even significand, in exact arithmetic.
-/
namespace PluginHost.Numeric

def significandBits : Nat := 53

/-- The least exponent of a magnitude. -/
def minExponent : Int := -1074

/-- The least exponent that a magnitude of full precision cannot have. -/
def exponentLimit : Int := 972

/-- The magnitude `significand * 2 ^ exponent`. -/
structure Magnitude where
  /-- The significand, below `2 ^ 53`. -/
  significand : Nat
  /-- The exponent, at least `minExponent`. Above it the significand is at least `2 ^ 52`. -/
  exponent : Int
deriving DecidableEq, Repr

namespace Magnitude

def zero : Magnitude := ⟨0, minExponent⟩

/-- The magnitude with this significand, of which rounding may have made `2 ^ 53`. -/
def ofRounded (significand : Nat) (exponent : Int) : Magnitude :=
  if significand = Nat.pow 2 significandBits then
    ⟨Nat.pow 2 (significandBits - 1), exponent + 1⟩
  else ⟨significand, exponent⟩

/-- The quotient `num / den` in units of `2 ^ exponent`, as a fraction of naturals. -/
def inUnits (num den : Nat) (exponent : Int) : Nat × Nat :=
  (num * Nat.pow 2 (-exponent).toNat, den * Nat.pow 2 exponent.toNat)

/-- The exponent at which `num / den` has a significand of full precision, or the least one where it
has none. -/
def exponentOf (num den : Nat) : Int :=
  let guess : Int := (num.log2 : Int) - den.log2 - significandBits
  let (scaled, unit) := inUnits num den guess
  max minExponent (if scaled / unit < Nat.pow 2 significandBits then guess else guess + 1)

/-- The magnitude nearest to `num / den`, or `none` where it is beyond the largest one. -/
def ofQuotient? (num den : Nat) : Option Magnitude :=
  let exponent := exponentOf num den
  let (scaled, unit) := inUnits num den exponent
  let rounded := ofRounded (nearestQuotient scaled unit) exponent
  if rounded.exponent < exponentLimit then some rounded else none

/-- The magnitude nearest to `digits * 10 ^ exponent`, or `none` where it is beyond the largest one.
Numbers that are far out of range are not multiplied out. -/
def ofDecimal? (digits : Nat) (exponent : Int) : Option Magnitude :=
  let size := (decimalDigits digits).length + exponent
  if digits = 0 ∨ size < -330 then some zero
  else if 330 < size then none
  else ofQuotient? (digits * Nat.pow 10 exponent.toNat) (Nat.pow 10 (-exponent).toNat)

end Magnitude

end PluginHost.Numeric
