import PluginHost.Contract.Registry

/-!
# A host with many lifecycles

A host holds lifecycles, tokens and registries, each of which observes one phase. Lifecycles and
tokens that stem from the same opening share their phase; only lifecycles can lock it or start the
next generation. Every holder is named by its position in the order of creation.
-/
namespace PluginHost

/-- All phases of a host and everything that observes one. -/
structure Host (α : Type) where
  phases : Phases := {}
  lifecycles : List PhaseId := []
  tokens : List PhaseId := []
  registries : List (Registry α) := []
deriving Repr

namespace Host

variable {α : Type}

def startLifecycle (host : Host α) : Host α :=
  let (phase, phases) := host.phases.openFirst
  { host with phases := phases, lifecycles := host.lifecycles ++ [phase] }

/-- Starts the generation after that of the lifecycle in phase `previous`. -/
def startNext (host : Host α) (previous : PhaseId) : Traced (Host α) := do
  let (phase, phases) ← host.phases.openNext previous
  return { host with phases := phases, lifecycles := host.lifecycles ++ [phase] }

/-- Locks a phase; the flag says whether it was open until now. -/
def lock (host : Host α) (phase : PhaseId) : Traced (Bool × Host α) := do
  let (closed, phases) ← host.phases.lock phase
  return (closed, { host with phases := phases })

def issueToken (host : Host α) (phase : PhaseId) : Host α :=
  { host with tokens := host.tokens ++ [phase] }

def openRegistry (host : Host α) (phase : PhaseId) : Host α :=
  { host with registries := host.registries ++ [{ phase := phase }] }

/-- Puts a registry in the place of the one at this position. -/
def setRegistry (host : Host α) (position : Nat) (registry : Registry α) : Host α :=
  { host with registries := host.registries.set position registry }

/-- Offers a binding to the registry at this position. The answer is `none` where there is no such
registry. -/
def add? (host : Host α) (position : Nat) (binding : Binding α) :
    Option (Traced (Except RegistryError Unit × Host α)) := do
  let registry ← host.registries[position]?
  return do
    match ← registry.add host.phases binding with
    | .ok filled => return (.ok (), host.setRegistry position filled)
    | .error error => return (.error error, host)

/-- Empties the registry at this position, if there is one. -/
def clear? (host : Host α) (position : Nat) : Option (Traced (Host α)) := do
  let registry ← host.registries[position]?
  return do
    let emptied ← registry.clear host.phases
    return host.setRegistry position emptied

end Host

end PluginHost
