/-!
# Sets of characters as ranges of code points

A property of characters is given by closed ranges of code points, ascending and apart.
-/
namespace PluginHost.Text

/-- Whether the code point of a character lies in one of the ranges. -/
def inRanges (ranges : List (Nat × Nat)) (c : Char) : Bool :=
  ranges.any fun range => range.1 ≤ c.toNat && c.toNat ≤ range.2

/-- Ranges are ascending and apart when each is in order and ends below the start of the next, with
a gap between them. -/
def Ascending (ranges : List (Nat × Nat)) : Prop :=
  (∀ range ∈ ranges, range.1 ≤ range.2) ∧ ranges.Pairwise fun a b => a.2 + 1 < b.1

end PluginHost.Text
