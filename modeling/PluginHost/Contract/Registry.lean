import PluginHost.Contract.Catalog
import PluginHost.Contract.Phase
import PluginHost.Contract.Resolution

/-!
# Registries

A registry is a catalog that takes bindings only while its phase is open. Emptying it is allowed in
every phase.
-/
namespace PluginHost

/-- Why a registry refused a binding. -/
inductive RegistryError where
  /-- The binding was offered after the phase had been locked. -/
  | locked (contract : String) (generation : UInt64)
deriving DecidableEq, Repr

def RegistryError.message : RegistryError → String
  | .locked contract generation =>
    s!"cannot bind {Text.quote contract}: registry generation {generation} is locked"

/-- A catalog of bindings that observes a phase. -/
structure Registry (α : Type) where
  /-- The phase that says whether bindings are taken. -/
  phase : PhaseId
  catalog : Catalog α := .empty
deriving DecidableEq, Repr

/-- A contract that has more than one valid binding under some active profiles. -/
structure Ambiguity (α : Type) where
  contract : String
  profiles : ProfileSet
  first : Binding α
  second : Binding α
deriving DecidableEq, Repr

namespace Registry

variable {α : Type}

def isLocked (registry : Registry α) (phases : Phases) : Bool := phases.isLocked registry.phase

/-- Adds a binding to the candidates of its contract, or refuses it once the phase is locked. -/
def add (registry : Registry α) (phases : Phases) (binding : Binding α) :
    Traced (Except RegistryError (Registry α)) := do
  if registry.isLocked phases then
    let generation := phases.generation registry.phase
    Traced.emit (.bindingRefused binding.contract generation)
    return .error (.locked binding.contract generation)
  else
    Traced.emit (.bindingRegistered binding.contract binding.profiles)
    return .ok { registry with catalog := registry.catalog.insert binding }

/-- Drops every binding, in any phase. -/
def clear (registry : Registry α) (phases : Phases) : Traced (Registry α) := do
  Traced.emit
    (.registryCleared (phases.generation registry.phase) registry.catalog.contracts.length)
  return { registry with catalog := .empty }

/-- Resolves a contract, and reports when more than one of its candidates is valid. -/
def resolve (registry : Registry α) (contract : String) (active : ProfileSet) :
    Traced (Resolution α) := do
  let resolution := Resolution.ofCandidates active (registry.catalog.candidates contract)
  if resolution.isAmbiguous then
    Traced.emit (.ambiguousOverride contract active)
  return resolution

/-- The ambiguity of a group of candidates, if more than one of them is valid. -/
def ambiguity? (active : ProfileSet) (group : Candidates α) : Option (Ambiguity α) :=
  match Resolution.ofCandidates active group.bindings with
  | .ambiguous first second => some ⟨group.contract, active, first, second⟩
  | .missing | .unique _ => none

/-- Every contract that is ambiguous under the active profiles, in the order of the catalog. -/
def ambiguities (registry : Registry α) (active : ProfileSet) : List (Ambiguity α) :=
  registry.catalog.groups.filterMap (ambiguity? active)

end Registry

end PluginHost
