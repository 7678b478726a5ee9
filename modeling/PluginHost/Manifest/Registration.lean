import PluginHost.Contract.Registry
import PluginHost.Manifest.Basic

/-!
# Registering a manifest

The profile names of all entries are resolved before anything is registered, so a name that stands
for nothing leaves the registry as it is. The implementations are then made one after another, each
just before its binding is offered to the registry.
-/
namespace PluginHost

/-- Why a manifest was not registered in full. -/
inductive RegistrationError where
  /-- A profile name of an entry stands for no set. -/
  | profile (error : ProfileError)
  | registry (error : RegistryError)
deriving DecidableEq, Repr

def RegistrationError.message : RegistrationError → String
  | .profile error => error.message
  | .registry error => error.message

/-- What making an implementation gives. -/
structure Made (α : Type) where
  implementation : α
  /-- The phases that were locked while it was made, in order. -/
  locked : List PhaseId := []

/-- How implementations are made: from the number of those made before, the entry, and the phases as
they are at that moment. -/
abbrev Maker (α : Type) := Nat → BindingEntry → Phases → Made α

/-- The outcome of registering a manifest. -/
structure Registration (α : Type) where
  /-- The number of bindings added, or why the registration stopped. -/
  result : Except RegistrationError Nat
  /-- How many implementations were made. -/
  made : Nat
  registry : Registry α
  phases : Phases

namespace Manifest

variable {α : Type}

/-- Every entry with the set of profiles that it requires, or the error of the first name that
stands for none. -/
def resolvedEntries (manifest : Manifest) :
    List BindingEntry → Except ProfileError (List (BindingEntry × ProfileSet))
  | [] => .ok []
  | entry :: entries => do
    let required ← manifest.required entry.profiles
    let others ← manifest.resolvedEntries entries
    return (entry, required) :: others

def lockAll : List PhaseId → Phases → Traced Phases
  | [], phases => return phases
  | id :: ids, phases => do
    let (_, phases) ← phases.lock id
    lockAll ids phases

/-- Makes the implementation of each entry and offers its binding to the registry, until one is
refused. `made` counts the implementations made before. -/
def registerEntries (make : Maker α) (made : Nat) :
    List (BindingEntry × ProfileSet) → Registry α → Phases → Traced (Registration α)
  | [], registry, phases => return ⟨.ok made, made, registry, phases⟩
  | (entry, required) :: entries, registry, phases => do
    let product := make made entry phases
    -- a phase that was locked meanwhile makes the registry refuse the binding
    let phases ← lockAll product.locked phases
    match ← registry.add phases ⟨entry.contract, required, product.implementation⟩ with
    | .error error => return ⟨.error (.registry error), made + 1, registry, phases⟩
    | .ok filled => registerEntries make (made + 1) entries filled phases

/-- Registers every binding of a manifest with the implementations that `make` makes. -/
def registerWith (manifest : Manifest) (make : Maker α) (registry : Registry α)
    (phases : Phases) : Traced (Registration α) :=
  match manifest.resolvedEntries manifest.bindings with
  | .error error => return ⟨.error (.profile error), 0, registry, phases⟩
  | .ok entries => registerEntries make 0 entries registry phases

/-- Makes the name of the implementation stand for the implementation. -/
def nameMaker : Maker String := fun _ entry _ => { implementation := entry.implementation }

/-- Registers every binding of a manifest with the name of its implementation. -/
def registerInto (manifest : Manifest) (registry : Registry String) (phases : Phases) :
    Traced (Registration String) :=
  manifest.registerWith nameMaker registry phases

end Manifest

end PluginHost
