import Mathlib.Order.Lattice
import PluginHost.Proofs.Allocation.Sizes

/-!
# Larger requests get larger buffers

Every step of a size keeps the order of lengths: rounding, whatever the factor, truncation, the
next power of two and the next block, and so do bounds that are put on what keeps it. No step
depends on the exact sizes, so a policy with other factors or bounds keeps the order as well.
-/
namespace PluginHost.Allocation

theorem nextBlock_mono : Monotone nextBlock := by
  intro short long h
  have hblocks : short / blockSize + 1 ≤ long / blockSize + 1 :=
    Nat.succ_le_succ (Nat.div_le_div_right h)
  exact min_le_min_right maxLength (Nat.mul_le_mul_right blockSize hblocks)

theorem highestPowerOfTwo_mono : Monotone highestPowerOfTwo := by
  intro small large h
  rw [highestPowerOfTwo_eq, highestPowerOfTwo_eq]
  exact Nat.findGreatest_mono_right _ h

namespace Factor

/-- Length and product are rounded in order, each to the same number of bits. -/
theorem product_mono (f : Factor) : Monotone f.product := by
  intro short long h
  have hlength : Numeric.roundToBits precision short ≤ Numeric.roundToBits precision long :=
    Numeric.roundToBits_mono (by decide) h
  exact Numeric.roundToBits_mono (by decide) (Nat.mul_le_mul_right f.significand hlength)

theorem scale_mono (f : Factor) : Monotone f.scale := by
  intro short long h
  rw [scale_eq, scale_eq]
  exact min_le_min_right maxLength (Nat.div_le_div_right (f.product_mono h))

end Factor

namespace Policy

theorem size_mono (policy : Policy) : Monotone policy.size := by
  cases policy with
  | fixed => exact monotone_id
  | fivePercentForGrowth => exact (Factor.scale_mono _).min nextBlock_mono
  | doubling =>
    have hgrown : Monotone fun len =>
        min (2 * highestPowerOfTwo (Factor.fiftyPercent.scale len)) maxLength := by
      intro short long h
      have hpower := highestPowerOfTwo_mono (Factor.fiftyPercent.scale_mono h)
      exact min_le_min_right maxLength (Nat.mul_le_mul_left 2 hpower)
    exact (hgrown.min nextBlock_mono).max monotone_const
  | reasonablySmall =>
    exact ((Factor.scale_mono _).min nextBlock_mono).max monotone_const

/-- A larger request never gets a smaller buffer. -/
theorem allocationSize_mono (policy : Policy) {a b : UInt64} (h : a ≤ b) :
    policy.allocationSize a ≤ policy.allocationSize b := by
  rw [UInt64.le_iff_toNat_le] at h ⊢
  rw [toNat_allocationSize, toNat_allocationSize]
  exact policy.size_mono h

/-- The size doubles where the scaled length passes a power of two, steps where the length passes
a block, and stands still where it saturates. -/
theorem allocationSize_mono_at_steps :
    ((85 : UInt64) ≤ 86 ∧ doubling.allocationSize 85 = 128 ∧ doubling.allocationSize 86 = 256 ∧
      doubling.allocationSize 85 ≤ doubling.allocationSize 86) ∧
    ((20479 : UInt64) ≤ 20480 ∧ fivePercentForGrowth.allocationSize 20479 = 20480 ∧
      fivePercentForGrowth.allocationSize 20480 = 21504 ∧
      fivePercentForGrowth.allocationSize 20479 ≤ fivePercentForGrowth.allocationSize 20480) ∧
    ((0xFFFFFFFFFFFFFC00 : UInt64) ≤ 0xFFFFFFFFFFFFFFFF ∧
      reasonablySmall.allocationSize 0xFFFFFFFFFFFFFC00 = 0xFFFFFFFFFFFFFFFF ∧
      reasonablySmall.allocationSize 0xFFFFFFFFFFFFFC00 ≤
        reasonablySmall.allocationSize 0xFFFFFFFFFFFFFFFF) :=
  ⟨⟨by decide, by decide, by decide, allocationSize_mono doubling (by decide)⟩,
    ⟨by decide, by decide, by decide, allocationSize_mono fivePercentForGrowth (by decide)⟩,
    ⟨by decide, by decide, allocationSize_mono reasonablySmall (by decide)⟩⟩

end Policy

end PluginHost.Allocation
