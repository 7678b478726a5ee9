import PluginHost.Contract.Registry

/-!
# Locating services

A locator answers which binding serves a contract, over a registry that no longer changes. That it
cannot answer is an ordinary value with its reason.
-/
namespace PluginHost

/-- Why a contract could not be served. -/
inductive LocateError where
  | notLocked (generation : UInt64)
  /-- No binding of the contract is valid under the active profiles. -/
  | unbound (contract : String) (profiles : ProfileSet)
  /-- Several bindings of the contract are valid under the active profiles. -/
  | ambiguous (contract : String) (profiles : ProfileSet) (candidates : Nat)
deriving DecidableEq, Repr

def LocateError.message : LocateError → String
  | .notLocked generation => s!"registry generation {generation} is still accepting registrations"
  | .unbound contract profiles => s!"no service binding for {contract} under profiles {profiles}"
  | .ambiguous contract profiles candidates =>
    s!"ambiguous service binding for {contract} under profiles {profiles}: " ++
      s!"{candidates} candidates are valid"

/-- A locked registry and the profiles that are active. -/
structure Locator (α : Type) where
  registry : Registry α
  active : ProfileSet
deriving DecidableEq, Repr

namespace Locator

variable {α : Type}

/-- A locator over a registry, which must be locked. -/
def ofRegistry (registry : Registry α) (phases : Phases) (active : ProfileSet) :
    Except LocateError (Locator α) :=
  if registry.isLocked phases then .ok ⟨registry, active⟩
  else .error (.notLocked (phases.generation registry.phase))

/-- The locator over the same registry with other active profiles. -/
def withProfiles (locator : Locator α) (active : ProfileSet) : Locator α :=
  { locator with active := active }

@[simp] theorem active_withProfiles (locator : Locator α) (active : ProfileSet) :
    (locator.withProfiles active).active = active := rfl

@[simp] theorem registry_withProfiles (locator : Locator α) (active : ProfileSet) :
    (locator.withProfiles active).registry = locator.registry := rfl

def locateBinding (locator : Locator α) (contract : String) :
    Traced (Except LocateError (Binding α)) := do
  match ← locator.registry.resolve contract locator.active with
  | .unique binding => return .ok binding
  | .missing => return .error (.unbound contract locator.active)
  | .ambiguous .. =>
    let bindings := locator.registry.catalog.candidates contract
    let valid := bindings.countP (·.isValidFor locator.active)
    Traced.emit (.ambiguousService contract locator.active valid)
    return .error (.ambiguous contract locator.active valid)

def locate (locator : Locator α) (contract : String) : Traced (Except LocateError α) := do
  return (← locator.locateBinding contract).map (·.implementation)

end Locator

end PluginHost
