import PluginHost.Diagnostics.Traced

/-!
# Registration phases

A phase is one registration window: it starts open and is locked at most once. Whoever holds the
name of a phase sees the same window. A reset does not reopen a window, it opens the next
generation's.
-/
namespace PluginHost

/-- One registration window. -/
structure Phase where
  generation : UInt64
  isLocked : Bool := false
deriving DecidableEq, Repr

/-- The name of one phase among all that were ever opened. -/
structure PhaseId where
  /-- How many phases were opened before this one. -/
  index : Nat
deriving DecidableEq, Repr

/-- All phases that were ever opened, in order of opening. -/
structure Phases where
  opened : List Phase := []
deriving DecidableEq, Repr

namespace Phases

/-- The generation of the first phase of a lifecycle. -/
def firstGeneration : UInt64 := 1

/-- The phase of this name, if it was opened. -/
def get? (phases : Phases) (id : PhaseId) : Option Phase := phases.opened[id.index]?

def isLocked (phases : Phases) (id : PhaseId) : Bool := (phases.get? id).any (·.isLocked)

/-- The generation of the phase of this name, and zero where there is none. -/
def generation (phases : Phases) (id : PhaseId) : UInt64 :=
  ((phases.get? id).map (·.generation)).getD 0

def openPhase (phases : Phases) (generation : UInt64) : PhaseId × Phases :=
  (⟨phases.opened.length⟩, ⟨phases.opened ++ [{ generation := generation }]⟩)

def openFirst (phases : Phases) : PhaseId × Phases := phases.openPhase firstGeneration

/-- Opens the phase of the generation after that of `id`, which stays as it is. Generations are
counted modulo `2 ^ 64`. -/
def openNext (phases : Phases) (id : PhaseId) : Traced (PhaseId × Phases) := do
  let previous := phases.generation id
  let next := previous + 1
  Traced.emit (.generationStarted previous next)
  return phases.openPhase next

/-- Locks a phase. The flag of the result says whether this call closed the window, which it did
unless the phase was locked before. -/
def lock (phases : Phases) (id : PhaseId) : Traced (Bool × Phases) := do
  match phases.get? id with
  | none => return (false, phases)
  | some phase =>
    if phase.isLocked then
      return (false, phases)
    else
      Traced.emit (.phaseLocked phase.generation)
      return (true, ⟨phases.opened.set id.index { phase with isLocked := true }⟩)

end Phases

end PluginHost
