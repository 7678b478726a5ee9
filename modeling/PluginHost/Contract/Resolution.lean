import PluginHost.Contract.Binding

/-!
# Resolution of a contract

A list of candidates resolves only when exactly one of them is valid under the active profiles. Two
valid candidates are an ambiguity, which is reported and never settled by their order.
-/
namespace PluginHost

/-- The outcome of resolving one contract. -/
inductive Resolution (α : Type) where
  | missing
  | unique (binding : Binding α)
  /-- At least two candidates are valid; these are the first two. -/
  | ambiguous (first second : Binding α)
deriving DecidableEq, Repr

namespace Resolution

variable {α : Type}

/-- Resolves a list of candidates. The scan stops at the second valid one. -/
def ofCandidates (active : ProfileSet) : List (Binding α) → Resolution α
  | [] => .missing
  | candidate :: others =>
    if candidate.isValidFor active then
      match others.find? (·.isValidFor active) with
      | none => .unique candidate
      | some second => .ambiguous candidate second
    else
      ofCandidates active others

/-- The binding, where there is exactly one. -/
def unique? : Resolution α → Option (Binding α)
  | unique binding => some binding
  | missing | ambiguous .. => none

def isAmbiguous : Resolution α → Bool
  | ambiguous .. => true
  | missing | unique _ => false

/-- The single valid binding of a list, or `none` if there is none or there are several. -/
def findValid? (active : ProfileSet) (candidates : List (Binding α)) : Option (Binding α) :=
  (ofCandidates active candidates).unique?

end Resolution

end PluginHost
