import Mathlib.Data.Nat.Find
import PluginHost.Proofs.Allocation.Growth
import PluginHost.Proofs.Numeric.Checked

/-!
# The sizes that policies choose

The sizes of all policies by integer formulas alone: the cap at the next block hides what rounding
does to long lengths, and to short ones rounding does nothing. Bounds are read off the formulas.
Computed in checked steps, a size is the same, so nothing overflows or wraps around on the way.
-/
namespace PluginHost.Allocation

open Checked (Fault)

/-! ## The next block -/

theorem le_nextBlock {len : Nat} (h : len ≤ maxLength) : len ≤ nextBlock len := by
  refine Nat.le_min.mpr ⟨?_, h⟩
  have hblock := Nat.lt_mul_div_succ len (show 0 < blockSize by decide)
  rw [Nat.mul_comm]
  exact Nat.le_of_lt hblock

theorem nextBlock_le (len : Nat) : nextBlock len ≤ min (len + blockSize) maxLength := by
  refine Nat.le_min.mpr ⟨?_, Nat.min_le_right ..⟩
  have hdown := Nat.div_mul_le_self len blockSize
  have hsplit : (len / blockSize + 1) * blockSize = len / blockSize * blockSize + blockSize :=
    Nat.succ_mul ..
  exact Nat.le_trans (Nat.min_le_left ..) (by omega)

/-- What is a block or more above a length is capped. -/
theorem min_nextBlock_of_le {len size : Nat} (h : min (len + blockSize) maxLength ≤ size) :
    min size (nextBlock len) = nextBlock len :=
  Nat.min_eq_right (Nat.le_trans (nextBlock_le len) h)

/-- Saturation does not show under the cap. -/
theorem min_maxLength_nextBlock (size len : Nat) :
    min (min size maxLength) (nextBlock len) = min size (nextBlock len) := by
  have hcap : nextBlock len ≤ maxLength := Nat.min_le_right ..
  omega

/-! ## Growth under the cap -/

namespace Factor

variable {f : Factor}

/-- A scaled length is the exact quotient, or both are beyond the next block. -/
theorem scale_exact_or_long (hf : f.Sharp) (len : Nat) :
    f.scale len = min (len * f.numerator / f.denominator) maxLength ∨
      min (len + blockSize) maxLength ≤ f.scale len ∧
        len + blockSize ≤ len * f.numerator / f.denominator := by
  rw [scale_eq]
  rcases Nat.lt_or_ge len (2 ^ 15) with hshort | hlong
  · exact .inl (by rw [product_div_of_short hf hshort])
  · have hproduct := le_product_div_of_long hf hlong
    exact .inr ⟨by omega, le_quotient_of_long hf hlong⟩

theorem min_scale_nextBlock (hf : f.Sharp) (len : Nat) :
    min (f.scale len) (nextBlock len) =
      min (len * f.numerator / f.denominator) (nextBlock len) := by
  rcases scale_exact_or_long hf len with hexact | ⟨hscale, hquotient⟩
  · rw [hexact, min_maxLength_nextBlock]
  · rw [min_nextBlock_of_le hscale,
      min_nextBlock_of_le (Nat.le_trans (Nat.min_le_left ..) hquotient)]

end Factor

/-! ## Powers of two -/

theorem highestPowerOfTwo_eq (n : Nat) :
    highestPowerOfTwo n = Nat.findGreatest Nat.isPowerOfTwo n := by
  refine (Nat.findGreatest_eq_iff.mpr ?_).symm
  rw [highestPowerOfTwo]
  split
  · rename_i hzero
    subst hzero
    exact ⟨Nat.le_refl 0, fun h => absurd rfl h, fun m hpos hle => absurd hpos (by omega)⟩
  · rename_i hne
    refine ⟨Nat.log2_self_le hne, fun _ => ⟨n.log2, rfl⟩, ?_⟩
    rintro _ hlt hle ⟨k, rfl⟩
    have hexponent : n.log2 < k := (Nat.pow_lt_pow_iff_right (by decide)).mp hlt
    have hnext : 2 ^ (n.log2 + 1) ≤ 2 ^ k := Nat.pow_le_pow_right (by decide) hexponent
    have hself : n < 2 ^ (n.log2 + 1) := Nat.lt_log2_self
    omega

theorem le_two_mul_highestPowerOfTwo (n : Nat) : n ≤ 2 * highestPowerOfTwo n := by
  rw [highestPowerOfTwo]
  split
  · omega
  · have hself : n < 2 ^ (n.log2 + 1) := Nat.lt_log2_self
    rw [Nat.pow_succ, Nat.mul_comm] at hself
    exact Nat.le_of_lt hself

/-- Doubling goes beyond the scaled length although that was rounded down to a power of two, so a
long length is capped in any case. -/
theorem min_grown_nextBlock {f : Factor} (hf : f.Sharp) (len : Nat) :
    min (min (2 * highestPowerOfTwo (f.scale len)) maxLength) (nextBlock len) =
      min (2 * highestPowerOfTwo (len * f.numerator / f.denominator)) (nextBlock len) := by
  have hscaled := le_two_mul_highestPowerOfTwo (f.scale len)
  have hquotient := le_two_mul_highestPowerOfTwo (len * f.numerator / f.denominator)
  rw [min_maxLength_nextBlock]
  rcases Factor.scale_exact_or_long hf len with hexact | ⟨hscale, hlong⟩
  · rcases Nat.le_total (len * f.numerator / f.denominator) maxLength with hfits | hbeyond
    · rw [hexact, Nat.min_eq_left hfits]
    · rw [hexact, Nat.min_eq_right hbeyond] at hscaled ⊢
      rw [min_nextBlock_of_le (Nat.le_trans (Nat.min_le_right ..) hscaled),
        min_nextBlock_of_le (Nat.le_trans (Nat.min_le_right ..) (Nat.le_trans hbeyond hquotient))]
  · rw [min_nextBlock_of_le (Nat.le_trans hscale hscaled),
      min_nextBlock_of_le
        (Nat.le_trans (Nat.min_le_left ..) (Nat.le_trans hlong hquotient))]

/-! ## Sizes by integer formulas -/

namespace Policy

/-- The first multiple of 1024 above a length, as far as 64 bits reach. -/
def cap (len : Nat) : Nat := min ((len / 1024 + 1) * 1024) (2 ^ 64 - 1)

/-- The size of a buffer in exact arithmetic. -/
def exactSize : Policy → Nat → Nat
  | fixed, len => len
  | fivePercentForGrowth, len => min (21 * len / 20) (cap len)
  | doubling, len =>
    max 64 (min (2 * Nat.findGreatest Nat.isPowerOfTwo (3 * len / 2)) (cap len))
  | reasonablySmall, len => max 8 (min (6 * len / 5) (cap len))

/-- The least size that a policy chooses. -/
def least : Policy → Nat
  | fixed | fivePercentForGrowth => 0
  | doubling => 64
  | reasonablySmall => 8

theorem cap_eq (len : Nat) : cap len = nextBlock len := rfl

theorem size_eq_exactSize (policy : Policy) (len : Nat) :
    policy.size len = policy.exactSize len := by
  cases policy with
  | fixed => rfl
  | fivePercentForGrowth =>
    have hquotient : len * 105 / 100 = 21 * len / 20 := by omega
    rw [size, Factor.min_scale_nextBlock Factor.sharp_fivePercent]
    simp only [Factor.fivePercent, hquotient, exactSize, cap_eq]
  | doubling =>
    have hquotient : len * 15 / 10 = 3 * len / 2 := by omega
    rw [size, min_grown_nextBlock Factor.sharp_fiftyPercent, Nat.max_comm]
    simp only [Factor.fiftyPercent, hquotient, highestPowerOfTwo_eq, exactSize, cap_eq]
  | reasonablySmall =>
    have hquotient : len * 12 / 10 = 6 * len / 5 := by omega
    rw [size, Factor.min_scale_nextBlock Factor.sharp_twentyPercent, Nat.max_comm]
    simp only [Factor.twentyPercent, hquotient, exactSize, cap_eq]

/-- No size is less than what is asked for. -/
theorem le_size (policy : Policy) {len : Nat} (h : len ≤ maxLength) : len ≤ policy.size len := by
  have hcap : len ≤ cap len := le_nextBlock h
  rw [size_eq_exactSize]
  cases policy with
  | fixed => exact Nat.le_refl len
  | fivePercentForGrowth =>
    simp only [exactSize]
    omega
  | doubling =>
    have hgrown := le_two_mul_highestPowerOfTwo (3 * len / 2)
    rw [highestPowerOfTwo_eq] at hgrown
    simp only [exactSize]
    omega
  | reasonablySmall =>
    simp only [exactSize]
    omega

/-- No size is more than a block above what is asked for, but for the least size of the policy. -/
theorem size_le (policy : Policy) {len : Nat} (h : len ≤ maxLength) :
    policy.size len ≤ max policy.least (min (len + blockSize) maxLength) := by
  have hblock := nextBlock_le len
  cases policy with
  | fixed =>
    simp only [size]
    omega
  | fivePercentForGrowth =>
    simp only [size]
    omega
  | doubling =>
    simp only [size, least]
    omega
  | reasonablySmall =>
    simp only [size, least]
    omega

theorem toNat_allocationSize (policy : Policy) (len : UInt64) :
    (policy.allocationSize len).toNat = policy.size len.toNat := by
  have hlen : len.toNat ≤ maxLength := Nat.le_pred_of_lt len.toNat_lt
  have hsize := policy.size_le hlen
  have hleast : policy.least ≤ maxLength := by cases policy <;> decide
  refine UInt64.toNat_ofNat_of_lt' (Nat.lt_of_le_pred (by decide) ?_)
  show policy.size len.toNat ≤ maxLength
  omega

end Policy

/-! ## Sizes in checked steps -/

/-- The next block in checked steps. -/
def nextBlockSteps (len : Nat) : Except Fault Nat := do
  let blocks ← Checked.add (len / blockSize) 1
  return Checked.mulSaturating blocks blockSize

theorem nextBlockSteps_eq {len : Nat} (h : len ≤ maxLength) :
    nextBlockSteps len = .ok (nextBlock len) := by
  have hblocks : len / blockSize + 1 < UInt64.size := by
    have hdown : len / blockSize ≤ maxLength / blockSize := Nat.div_le_div_right h
    exact Nat.lt_of_le_of_lt (Nat.succ_le_succ hdown) (by decide)
  rw [nextBlockSteps, Checked.add_eq_ok hblocks]
  rfl

/-- The highest power of two in checked steps: a one is shifted to the place of the highest bit. -/
def highestPowerSteps (n : Nat) : Except Fault Nat :=
  if n = 0 then return 0
  else do
    let position ← Checked.sub (Checked.width - 1) (Checked.leadingZeros n)
    Checked.shiftLeft 1 position

theorem highestPowerSteps_eq {n : Nat} (h : n ≤ maxLength) :
    highestPowerSteps n = .ok (highestPowerOfTwo n) := by
  have hlog : n.log2 < Checked.width := Numeric.log2_lt_of_lt (by decide) (Nat.lt_succ_of_le h)
  rw [highestPowerSteps, highestPowerOfTwo]
  split
  · rfl
  · rename_i hne
    have hzeros : Checked.leadingZeros n = Checked.width - 1 - n.log2 := if_neg hne
    have hposition : Checked.width - 1 - Checked.leadingZeros n = n.log2 := by omega
    rw [Checked.sub_eq_ok (by omega), hposition]
    exact Checked.shiftLeft_one hlog

/-- The next power of two in checked steps, saturating. -/
def grownSteps (n : Nat) : Except Fault Nat := do
  let highest ← highestPowerSteps n
  return Checked.mulSaturating highest 2

theorem grownSteps_eq {n : Nat} (h : n ≤ maxLength) :
    grownSteps n = .ok (min (2 * highestPowerOfTwo n) maxLength) := by
  rw [grownSteps, highestPowerSteps_eq h, Checked.ok_bind, Nat.mul_comm]
  rfl

namespace Factor

theorem scale_le (f : Factor) (len : Nat) : f.scale len ≤ maxLength := Nat.min_le_right ..

/-- The scaled length in checked steps. A product of `2 ^ 1024` or more has an exponent that a
binary number of 64 bits cannot have. -/
def scaleSteps (f : Factor) (len : Nat) : Except Fault Nat := do
  let product ← if (f.product len).log2 < 1024 + 52 then .ok (f.product len) else .error .overflow
  return min (product / 2 ^ 52) maxLength

theorem scaleSteps_eq {f : Factor} (hf : f.Sharp) {len : Nat} (h : len ≤ maxLength) :
    f.scaleSteps len = .ok (f.scale len) := by
  have hlength : Numeric.roundToBits precision len ≤ 2 * maxLength :=
    Nat.le_trans (Numeric.roundToBits_le ..) (Nat.mul_le_mul_left 2 h)
  have hproduct : f.product len < 2 ^ 128 := by
    calc f.product len
      _ ≤ 2 * (Numeric.roundToBits precision len * f.significand) := Numeric.roundToBits_le ..
      _ ≤ 2 * (2 * maxLength * 2 ^ 53) :=
        Nat.mul_le_mul_left 2 (Nat.mul_le_mul hlength (Nat.le_of_lt hf.lt_two))
      _ < 2 ^ 128 := by decide
  have hexponent := Numeric.log2_lt_of_lt (by decide) hproduct
  rw [scaleSteps, if_pos (Nat.lt_trans hexponent (by decide))]
  rfl

end Factor

namespace Policy

/-- The size of a buffer in checked steps. -/
def sizeSteps : Policy → Nat → Except Fault Nat
  | fixed, len => return len
  | fivePercentForGrowth, len => do
    let scaled ← Factor.fivePercent.scaleSteps len
    return min scaled (← nextBlockSteps len)
  | doubling, len => do
    let grown ← grownSteps (← Factor.fiftyPercent.scaleSteps len)
    return max (min grown (← nextBlockSteps len)) 64
  | reasonablySmall, len => do
    let scaled ← Factor.twentyPercent.scaleSteps len
    return max (min scaled (← nextBlockSteps len)) 8

theorem sizeSteps_eq (policy : Policy) {len : Nat} (h : len ≤ maxLength) :
    policy.sizeSteps len = .ok (policy.size len) := by
  have hblock := nextBlockSteps_eq h
  cases policy with
  | fixed => rfl
  | fivePercentForGrowth =>
    rw [sizeSteps, Factor.scaleSteps_eq Factor.sharp_fivePercent h, Checked.ok_bind, hblock]
    rfl
  | doubling =>
    have hgrown := grownSteps_eq (Factor.fiftyPercent.scale_le len)
    rw [sizeSteps, Factor.scaleSteps_eq Factor.sharp_fiftyPercent h, Checked.ok_bind, hgrown,
      Checked.ok_bind, hblock]
    rfl
  | reasonablySmall =>
    rw [sizeSteps, Factor.scaleSteps_eq Factor.sharp_twentyPercent h, Checked.ok_bind, hblock]
    rfl

end Policy

/-! ## What callers rely on -/

namespace Policy

/-- Binary rounding does not show in any size. -/
theorem allocationSize_exact (policy : Policy) (len : UInt64) :
    (policy.allocationSize len).toNat = policy.exactSize len.toNat := by
  rw [toNat_allocationSize, size_eq_exactSize]

/-- A buffer holds what was asked for and a block more at most, but for the least size of the
policy, and its size is computed without leaving the range of words. -/
theorem allocationSize_bounded (policy : Policy) (len : UInt64) :
    policy.sizeSteps len.toNat = .ok (policy.allocationSize len).toNat ∧
      len ≤ policy.allocationSize len ∧
      (policy.allocationSize len).toNat ≤
        max policy.least (min (len.toNat + 1024) (2 ^ 64 - 1)) := by
  have hlen : len.toNat ≤ maxLength := Nat.le_pred_of_lt len.toNat_lt
  refine ⟨?_, ?_, ?_⟩
  · rw [policy.sizeSteps_eq hlen, toNat_allocationSize]
  · rw [UInt64.le_iff_toNat_le, toNat_allocationSize]
    exact policy.le_size hlen
  · rw [toNat_allocationSize]
    exact policy.size_le hlen

end Policy

end PluginHost.Allocation
