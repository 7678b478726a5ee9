import Mathlib.Data.Nat.Log
import Mathlib.Tactic.Ring
import PluginHost.Numeric.Rounding

/-!
# How far rounding goes

A number that is rounded to so many significant bits becomes a multiple of its unit, the value of
the last of these bits. The unit is bounded by the number, which bounds the relative error. A
multiple of the unit is passed over by no number on its own side, and not even by one on the other
side that is less than half a unit away. So powers of two keep numbers of different lengths apart,
and rounding keeps the order.
-/
namespace PluginHost.Numeric

theorem log2_lt_of_lt {n bits : Nat} (hbits : 0 < bits) (h : n < 2 ^ bits) : n.log2 < bits := by
  rcases Nat.eq_zero_or_pos n with rfl | hpos
  · rwa [Nat.log2_zero]
  · exact (Nat.log2_lt (Nat.ne_of_gt hpos)).mpr h

/-- The value of the last significant bit of a number. -/
def lastUnit (bits n : Nat) : Nat := 2 ^ excessBits bits n

theorem lastUnit_pos (bits n : Nat) : 0 < lastUnit bits n := Nat.two_pow_pos _

theorem roundToBits_eq_mul (bits n : Nat) :
    roundToBits bits n = nearestQuotient n (lastUnit bits n) * lastUnit bits n := rfl

/-- The rounded number is within half a unit of the exact one. -/
theorem roundToBits_near (bits n : Nat) :
    2 * roundToBits bits n ≤ 2 * n + lastUnit bits n ∧
      2 * n ≤ 2 * roundToBits bits n + lastUnit bits n := by
  rw [roundToBits_eq_mul]
  exact nearestQuotient_near n (lastUnit_pos bits n)

/-- A number has no more bits than the significant ones and those below the unit. -/
theorem lt_lastUnit_mul (bits n : Nat) : n < lastUnit bits n * 2 ^ bits := by
  have hbits : n.log2 + 1 ≤ excessBits bits n + bits := by
    simp only [excessBits]
    omega
  calc n
    _ < 2 ^ (n.log2 + 1) := Nat.lt_log2_self
    _ ≤ 2 ^ (excessBits bits n + bits) := Nat.pow_le_pow_right Nat.two_pos hbits
    _ = lastUnit bits n * 2 ^ bits := Nat.pow_add ..

/-- A number that is rounded at all has all significant bits. -/
theorem lastUnit_mul_le {bits n : Nat} (hne : n ≠ 0) (hlong : bits ≤ n.log2) :
    lastUnit bits n * 2 ^ bits ≤ 2 * n := by
  have hbits : excessBits bits n + bits = n.log2 + 1 := by
    simp only [excessBits]
    omega
  calc lastUnit bits n * 2 ^ bits
    _ = 2 ^ (n.log2 + 1) := by rw [lastUnit, ← Nat.pow_add, hbits]
    _ = 2 * 2 ^ n.log2 := by rw [Nat.pow_succ, Nat.mul_comm]
    _ ≤ 2 * n := Nat.mul_le_mul_left 2 (Nat.log2_self_le hne)

theorem lastUnit_dvd_of_log2_lt {bits limit n : Nat} (h : n.log2 < limit + bits) :
    lastUnit bits n ∣ 2 ^ limit := by
  refine Nat.pow_dvd_pow 2 ?_
  simp only [excessBits]
  omega

theorem lastUnit_dvd {bits limit n : Nat} (hbits : 0 < bits) (h : n < 2 ^ (limit + bits)) :
    lastUnit bits n ∣ 2 ^ limit :=
  lastUnit_dvd_of_log2_lt (log2_lt_of_lt (Nat.add_pos_right limit hbits) h)

/-- Rounding loses one part in `2 ^ bits` at most. -/
theorem le_roundToBits (bits n : Nat) :
    2 ^ bits * n ≤ 2 ^ bits * roundToBits bits n + n := by
  rcases Nat.eq_zero_or_pos n with rfl | hpos
  · exact Nat.zero_le _
  rcases Nat.lt_or_ge n.log2 bits with hfits | hlong
  · rw [roundToBits_of_log2_lt hfits]
    exact Nat.le_add_right ..
  · have hnear := (roundToBits_near bits n).2
    have hunit := lastUnit_mul_le (Nat.ne_of_gt hpos) hlong
    have hscaled : 2 * (2 ^ bits * n) ≤
        2 * (2 ^ bits * roundToBits bits n) + lastUnit bits n * 2 ^ bits := by
      calc 2 * (2 ^ bits * n)
        _ = 2 ^ bits * (2 * n) := by ring
        _ ≤ 2 ^ bits * (2 * roundToBits bits n + lastUnit bits n) :=
          Nat.mul_le_mul_left _ hnear
        _ = 2 * (2 ^ bits * roundToBits bits n) + lastUnit bits n * 2 ^ bits := by ring
    omega

theorem roundToBits_le (bits n : Nat) : roundToBits bits n ≤ 2 * n := by
  rcases Nat.eq_zero_or_pos n with rfl | hpos
  · simp [roundToBits, nearestQuotient]
  rcases Nat.lt_or_ge n.log2 bits with hfits | hlong
  · rw [roundToBits_of_log2_lt hfits]
    omega
  · have hnear := (roundToBits_near bits n).1
    have hunit := lastUnit_mul_le (Nat.ne_of_gt hpos) hlong
    have hpow := Nat.le_mul_of_pos_right (lastUnit bits n) (Nat.two_pow_pos bits)
    omega

theorem lastUnit_dvd_roundToBits (bits n : Nat) : lastUnit bits n ∣ roundToBits bits n :=
  Nat.dvd_mul_left ..

/-- A multiple of the unit that is less than half a unit above a number is not rounded away. -/
theorem le_roundToBits_of_dvd {bits n target : Nat} (hdvd : lastUnit bits n ∣ target)
    (hclose : 2 * target < 2 * n + lastUnit bits n) : target ≤ roundToBits bits n := by
  have hnear := (roundToBits_near bits n).2
  exact Nat.le_of_lt_add_of_dvd (by omega) hdvd (lastUnit_dvd_roundToBits bits n)

/-- A multiple of the unit that is less than half a unit below a number is not passed over. -/
theorem roundToBits_le_of_dvd {bits n target : Nat} (hdvd : lastUnit bits n ∣ target)
    (hclose : 2 * n < 2 * target + lastUnit bits n) : roundToBits bits n ≤ target := by
  have hnear := (roundToBits_near bits n).1
  exact Nat.le_of_lt_add_of_dvd (by omega) (lastUnit_dvd_roundToBits bits n) hdvd

/-! ## Rounding keeps the order -/

theorem div_le_nearestQuotient (num den : Nat) : num / den ≤ nearestQuotient num den := by
  rw [nearestQuotient]
  split_ifs <;> omega

theorem nearestQuotient_le (num den : Nat) : nearestQuotient num den ≤ num / den + 1 := by
  rw [nearestQuotient]
  split_ifs <;> omega

theorem nearestQuotient_mono (den : Nat) : Monotone (nearestQuotient · den) := by
  intro num other h
  rcases Nat.eq_or_lt_of_le (Nat.div_le_div_right (c := den) h) with hsame | hless
  -- of one floor, it is the remainders that are compared with one half
  · have hrest : num % den ≤ other % den := by
      have hnum := Nat.div_add_mod num den
      have hother := Nat.div_add_mod other den
      rw [← hsame] at hother
      omega
    simp only [nearestQuotient, ← hsame]
    split_ifs <;> omega
  · exact ((nearestQuotient_le num den).trans hless).trans (div_le_nearestQuotient other den)

theorem log2_mono : Monotone Nat.log2 := by
  intro m n h
  rw [Nat.log2_eq_log_two, Nat.log2_eq_log_two]
  exact Nat.log_mono_right h

/-- With one significant bit at least, no number overtakes a greater one when both are rounded. -/
theorem roundToBits_mono {bits : Nat} (hbits : 0 < bits) : Monotone (roundToBits bits) := by
  intro m n h
  rcases Nat.eq_or_lt_of_le (log2_mono h) with hsame | hless
  -- numbers of one length have one unit
  · have hunit : lastUnit bits m = lastUnit bits n := by
      rw [lastUnit, lastUnit, excessBits, excessBits, hsame]
    rw [roundToBits_eq_mul, roundToBits_eq_mul, hunit]
    exact Nat.mul_le_mul_right _ (nearestQuotient_mono _ h)
  -- numbers of two lengths have a power of two between them, which neither of them passes over
  · have hne : n ≠ 0 := by
      rintro rfl
      exact Nat.not_lt_zero _ hless
    have hupper : m < 2 ^ n.log2 :=
      Nat.lt_of_lt_of_le Nat.lt_log2_self (Nat.pow_le_pow_right Nat.two_pos hless)
    have hlower : 2 ^ n.log2 ≤ n := Nat.log2_self_le hne
    have hpos := lastUnit_pos bits n
    calc roundToBits bits m
      _ ≤ 2 ^ n.log2 :=
        roundToBits_le_of_dvd (lastUnit_dvd_of_log2_lt (by omega)) (by omega)
      _ ≤ roundToBits bits n :=
        le_roundToBits_of_dvd (lastUnit_dvd_of_log2_lt (by omega)) (by omega)

end PluginHost.Numeric
