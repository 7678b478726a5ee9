import PluginHost.Numeric.Rounding
import PluginHost.Text.Quoted

/-!
# Allocation sizing

A storage caller that grows a buffer asks a `Policy` how much to allocate for a requested length.
Sizes depend on the length alone. Growth factors are applied in 53-bit binary arithmetic: the length
and the product are each rounded to nearest, ties to even, and the product is then truncated.
-/
namespace PluginHost.Allocation

/-- The largest length a 64-bit size can hold; sizes saturate here. -/
def maxLength : Nat := UInt64.size - 1

/-- The granule to which growth is capped. -/
def blockSize : Nat := 1024

/-- The first multiple of the block size above `len`, also where `len` is a multiple itself. -/
def nextBlock (len : Nat) : Nat := min ((len / blockSize + 1) * blockSize) maxLength

/-- The number of significant bits of a growth computation. -/
def precision : Nat := 53

/-- A growth factor `numerator / denominator`, at least one and less than two. -/
structure Factor where
  numerator : Nat
  denominator : Nat
deriving DecidableEq, Repr

namespace Factor

/-- The factor rounded to 53 significant bits, in units of `2 ^ -52`. -/
def significand (f : Factor) : Nat :=
  Numeric.nearestQuotient (f.numerator * Nat.pow 2 (precision - 1)) f.denominator

/-- The length times the factor: length and product are rounded to 53 significant bits, the result
is truncated and saturates at `maxLength`. -/
def scale (f : Factor) (len : Nat) : Nat :=
  let product := Numeric.roundToBits precision len * f.significand
  min (Numeric.roundToBits precision product / Nat.pow 2 (precision - 1)) maxLength

def fivePercent : Factor := ⟨105, 100⟩

def twentyPercent : Factor := ⟨12, 10⟩

def fiftyPercent : Factor := ⟨15, 10⟩

end Factor

/-- The largest power of two that is not above `n`, and zero for zero. -/
def highestPowerOfTwo (n : Nat) : Nat := if n = 0 then 0 else Nat.pow 2 n.log2

/-- How much more than the requested length a buffer gets. -/
inductive Policy where
  | fixed
  /-- Five percent of headroom, capped at the next block. -/
  | fivePercentForGrowth
  /-- Growth by powers of two, at least 64, capped at the next block. -/
  | doubling
  /-- Twenty percent of headroom, at least 8, capped at the next block. -/
  | reasonablySmall
deriving DecidableEq, Repr

namespace Policy

/-- The policy of a caller that does not choose one. -/
def standard : Policy := .doubling

instance : Inhabited Policy := ⟨standard⟩

/-- Every policy, in the order in which they are listed to users. -/
def all : List Policy := [.fixed, .fivePercentForGrowth, .doubling, .reasonablySmall]

/-- The size of a buffer that must hold at least `len` bytes. -/
def size : Policy → Nat → Nat
  | fixed, len => len
  | fivePercentForGrowth, len => min (Factor.fivePercent.scale len) (nextBlock len)
  | doubling, len =>
    let grown := min (2 * highestPowerOfTwo (Factor.fiftyPercent.scale len)) maxLength
    max (min grown (nextBlock len)) 64
  | reasonablySmall, len => max (min (Factor.twentyPercent.scale len) (nextBlock len)) 8

/-- The size of a buffer for a 64-bit length, as a 64-bit size. -/
def allocationSize (policy : Policy) (len : UInt64) : UInt64 :=
  UInt64.ofNat (policy.size len.toNat)

/-- The name used in configuration and on the command line. -/
def name : Policy → String
  | fixed => "fixed"
  | fivePercentForGrowth => "five-percent"
  | doubling => "default"
  | reasonablySmall => "reasonably-small"

def title : Policy → String
  | fixed => "Fixed"
  | fivePercentForGrowth => "FivePercentForGrowth"
  | doubling => "Doubling"
  | reasonablySmall => "ReasonablySmall"

/-- The policy of this name. Names match exactly. -/
def ofName? (text : String) : Option Policy := all.find? fun policy => policy.name == text

end Policy

/-- Why a text names no policy. -/
inductive PolicyError where
  | unknown (name : String)
deriving DecidableEq, Repr

def PolicyError.message : PolicyError → String
  | .unknown name =>
    s!"unknown capacity policy {Text.quote name} (expected one of: " ++
      ", ".intercalate (Policy.all.map Policy.name) ++ ")"

/-- The policy of this name, or the error that there is none. -/
def Policy.ofName (name : String) : Except PolicyError Policy :=
  match Policy.ofName? name with
  | some policy => .ok policy
  | none => .error (.unknown name)

end PluginHost.Allocation
