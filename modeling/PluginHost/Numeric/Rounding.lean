/-!
# Rounding to nearest, ties to even

Exact rounding of quotients and of naturals to a bounded number of significant bits. Everything is
computed in `Nat`, so a rounded value can be reasoned about without a machine float.
-/
namespace PluginHost.Numeric

/-- The integer nearest to `num / den`; a quotient half way between two integers goes to the even
one. -/
def nearestQuotient (num den : Nat) : Nat :=
  let floor := num / den
  let rest := num % den
  if 2 * rest < den then floor
  else if den < 2 * rest then floor + 1
  else floor + floor % 2

/-- The number of bits of `n` below its `bits` most significant ones. -/
def excessBits (bits n : Nat) : Nat := n.log2 + 1 - bits

/-- The number nearest to `n` that has at most `bits` significant bits, ties to the one whose last
significant bit is zero. A number that already fits is left as it is. -/
def roundToBits (bits n : Nat) : Nat :=
  let unit := Nat.pow 2 (excessBits bits n)
  nearestQuotient n unit * unit

@[simp] theorem nearestQuotient_one (num : Nat) : nearestQuotient num 1 = num := by
  simp [nearestQuotient, Nat.mod_one]

theorem roundToBits_of_log2_lt {bits n : Nat} (h : n.log2 < bits) : roundToBits bits n = n := by
  have : excessBits bits n = 0 := by simp only [excessBits]; omega
  simp [roundToBits, this]

/-- The rounded quotient is within half a unit of the exact one. -/
theorem nearestQuotient_near (num : Nat) {den : Nat} (h : 0 < den) :
    2 * (nearestQuotient num den * den) ≤ 2 * num + den ∧
      2 * num ≤ 2 * (nearestQuotient num den * den) + den := by
  have hdiv : den * (num / den) + num % den = num := Nat.div_add_mod num den
  have hlt : num % den < den := Nat.mod_lt _ h
  have hcomm : num / den * den = den * (num / den) := Nat.mul_comm ..
  have hsucc : (num / den + 1) * den = den * (num / den) + den := by
    rw [Nat.add_mul, Nat.one_mul, hcomm]
  have hparity : num / den % 2 = 0 ∨ num / den % 2 = 1 := by omega
  simp only [nearestQuotient]
  split
  · omega
  · split
    · omega
    -- half way between two integers, the even one is as near as the other
    · rcases hparity with hp | hp <;> rw [hp]
      · rw [Nat.add_zero]; omega
      · omega

end PluginHost.Numeric
