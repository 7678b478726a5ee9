import PluginHost.Profiles.Text
import PluginHost.Text.Quoted

/-!
# Bindings

A binding offers one implementation of a named contract, and may be restricted to sessions in which
certain profiles are active.
-/
namespace PluginHost

/-- One candidate implementation of a contract. -/
structure Binding (α : Type) where
  contract : String
  /-- The profiles that must all be active. The empty set is no restriction. -/
  profiles : ProfileSet := ProfileSet.any
  /-- What serves the contract. -/
  implementation : α
deriving DecidableEq, Repr

namespace Binding

variable {α : Type}

/-- Whether the binding may serve while the profiles of `active` are active. -/
def isValidFor (binding : Binding α) (active : ProfileSet) : Bool :=
  active.satisfies binding.profiles

def debugText (binding : Binding String) : String :=
  "Binding \x7b contract: " ++ Text.quote binding.contract ++
    ", profiles: " ++ binding.profiles.debugText ++
    ", implementation: " ++ Text.quote binding.implementation ++ " \x7d"

end Binding

end PluginHost
