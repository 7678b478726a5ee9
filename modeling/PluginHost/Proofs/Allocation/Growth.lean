import Mathlib.Tactic.Linarith
import PluginHost.Allocation.Policy
import PluginHost.Proofs.Numeric.Rounding

/-!
# Growth factors in rounded arithmetic

A scaled length is rounded three times: the factor, the length and the product. Below `2 ^ 15`, if
the factor is sharp enough, truncation hides all of it and the result is the exact quotient. From
there on the factor adds more than a block, and all the rounding does not take that away.
-/
namespace PluginHost.Allocation.Factor

open Numeric

/-- How far the rounded factor is from the exact one, in parts of its denominator. -/
def error (f : Factor) : Nat :=
  (f.denominator * f.significand - f.numerator * 2 ^ 52) +
    (f.numerator * 2 ^ 52 - f.denominator * f.significand)

/-- A factor that adds at least a twentieth and less than a whole, and that is hit so closely that
an exact multiple is rounded to itself. -/
structure Sharp (f : Factor) : Prop where
  error_lt : 4 * f.error < f.numerator
  numerator_lt : f.numerator < 2 ^ 7
  twentieth : 21 * f.denominator ≤ 20 * f.numerator
  lt_two : f.significand < 2 ^ 53
  denominator_pos : 0 < f.denominator

theorem sharp_fivePercent : Sharp fivePercent := by constructor <;> decide
theorem sharp_twentyPercent : Sharp twentyPercent := by constructor <;> decide
theorem sharp_fiftyPercent : Sharp fiftyPercent := by constructor <;> decide

variable {f : Factor}

theorem significand_le (f : Factor) :
    f.denominator * f.significand ≤ f.numerator * 2 ^ 52 + f.error := by
  simp only [error]
  omega

theorem le_significand (f : Factor) :
    f.numerator * 2 ^ 52 ≤ f.denominator * f.significand + f.error := by
  simp only [error]
  omega

/-- The product before it is truncated, in units of `2 ^ -52`. -/
def product (f : Factor) (len : Nat) : Nat :=
  roundToBits precision (roundToBits precision len * f.significand)

theorem scale_eq (f : Factor) (len : Nat) :
    f.scale len = min (f.product len / 2 ^ 52) maxLength := rfl

/-! ## Short lengths -/

theorem product_of_short {len : Nat} (hlen : len < 2 ^ 15) :
    f.product len = roundToBits precision (len * f.significand) := by
  have hfits : len.log2 < precision :=
    log2_lt_of_lt (by decide) (Nat.lt_trans hlen (by decide))
  rw [product, roundToBits_of_log2_lt hfits]

/-- A short length is scaled exactly: rounding does not cross a whole number. -/
theorem product_div_of_short (hf : f.Sharp) {len : Nat} (hlen : len < 2 ^ 15) :
    f.product len / 2 ^ 52 = len * f.numerator / f.denominator := by
  rw [product_of_short hlen]
  have hnumerator := hf.numerator_lt
  have hdenominator := hf.denominator_pos
  have hspread := hf.twentieth
  -- the exact product misses the exact quotient by `len` times the error of the factor
  have herror : 4 * (len * f.error) + len ≤ len * f.numerator := by
    have h := Nat.mul_le_mul_left len hf.error_lt
    linarith only [h]
  have hsmall : len * f.error ≤ len * 31 :=
    Nat.mul_le_mul_left len (by have := hf.error_lt; omega)
  have hle : f.denominator * (len * f.significand) ≤
      len * f.numerator * 2 ^ 52 + len * f.error := by
    have h := Nat.mul_le_mul_left len f.significand_le
    linarith only [h]
  have hge : len * f.numerator * 2 ^ 52 ≤
      f.denominator * (len * f.significand) + len * f.error := by
    have h := Nat.mul_le_mul_left len f.le_significand
    linarith only [h]
  have hbits : len * f.significand < 2 ^ (15 + precision) := by
    rw [Nat.pow_add]
    exact Nat.mul_lt_mul_of_lt_of_lt hlen hf.lt_two
  have hwhole : f.denominator * (len * f.numerator / f.denominator) ≤ len * f.numerator :=
    Nat.mul_div_le ..
  have hnext : len * f.numerator <
      f.denominator * (len * f.numerator / f.denominator) + f.denominator :=
    Nat.lt_mul_div_succ _ hdenominator
  generalize len * f.numerator / f.denominator = whole at hwhole hnext ⊢
  generalize len * f.significand = exact at hle hge hbits ⊢
  have hdvd := lastUnit_dvd (by decide) hbits
  have hunit : f.denominator * lastUnit precision exact ≤ f.denominator * 2 ^ 15 :=
    Nat.mul_le_mul_left _ (Nat.le_of_dvd (by decide) hdvd)
  have hhalf : 2 * (len * f.error) < f.denominator * lastUnit precision exact := by
    have h := Nat.mul_lt_mul_of_pos_left (lt_lastUnit_mul precision exact) hdenominator
    rw [← Nat.mul_assoc] at h
    simp only [precision] at h ⊢
    omega
  have hlower : 2 ^ 52 * whole ≤ roundToBits precision exact := by
    refine le_roundToBits_of_dvd ?_ (Nat.lt_of_mul_lt_mul_left (a := f.denominator) ?_)
    · exact Dvd.dvd.mul_right (hdvd.trans (Nat.pow_dvd_pow 2 (by decide))) whole
    · linarith only [hwhole, hge, hhalf]
  have hupper : roundToBits precision exact < 2 ^ 52 * (whole + 1) := by
    have hnear := Nat.mul_le_mul_left f.denominator (roundToBits_near precision exact).1
    refine Nat.lt_of_mul_lt_mul_left (a := 2 * f.denominator) ?_
    have hroom : 2 * (len * f.error) + f.denominator * lastUnit precision exact < 2 ^ 53 := by
      omega
    have hcell : len * f.numerator + 1 ≤ f.denominator * whole + f.denominator := hnext
    linarith only [hnear, hle, hcell, hroom]
  exact Nat.div_eq_of_lt_le (by linarith only [hlower]) (by linarith only [hupper])

/-! ## Long lengths -/

/-- Rounding loses less than a thousandth. -/
theorem le_thousandth (n : Nat) : 999 * n ≤ 1000 * roundToBits precision n := by
  have hloss := le_roundToBits precision n
  simp only [precision] at hloss ⊢
  omega

/-- The rounded factor is still well above one. -/
theorem Sharp.le_significand (hf : f.Sharp) : 999 * 21 * 2 ^ 52 ≤ 20000 * f.significand := by
  have hge := f.le_significand
  have herror := hf.error_lt
  have hspread := hf.twentieth
  refine Nat.le_of_mul_le_mul_left (?_ : f.denominator * _ ≤ f.denominator * _) hf.denominator_pos
  linarith only [hge, herror, hspread]

/-- A long length grows by a block or more. -/
theorem le_product_div_of_long (hf : f.Sharp) {len : Nat} (hlen : 2 ^ 15 ≤ len) :
    len + blockSize ≤ f.product len / 2 ^ 52 := by
  have hlength : 999 * len ≤ 1000 * roundToBits precision len := le_thousandth len
  have hproduct : 999 * (roundToBits precision len * f.significand) ≤ 1000 * f.product len :=
    le_thousandth _
  have hscaled := Nat.mul_le_mul hlength hf.le_significand
  rw [Nat.le_div_iff_mul_le (by decide), blockSize]
  linarith only [hscaled, hproduct, hlen]

/-! ## Capped growth -/

/-- The exact quotient of a long length, too, is a block or more above it. -/
theorem le_quotient_of_long (hf : f.Sharp) {len : Nat} (hlen : 2 ^ 15 ≤ len) :
    len + blockSize ≤ len * f.numerator / f.denominator := by
  have hspread := Nat.mul_le_mul_left len hf.twentieth
  rw [Nat.le_div_iff_mul_le hf.denominator_pos, blockSize]
  refine Nat.le_of_mul_le_mul_left (?_ : 20 * _ ≤ 20 * _) (by decide)
  have hroom := Nat.mul_le_mul_right f.denominator hlen
  linarith only [hspread, hroom]

end PluginHost.Allocation.Factor
