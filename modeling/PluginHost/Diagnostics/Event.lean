import PluginHost.Profiles.Text

/-!
# Diagnostic events

What the library reports while it works, for whoever listens. An event has a severity, a fixed
message and named fields.
-/
namespace PluginHost

/-- How much an event matters. -/
inductive Severity where
  /-- Of interest when looking for a fault. -/
  | debug
  /-- A normal step worth noting. -/
  | info
  /-- Something that deserves attention. -/
  | warn
  /-- A refused operation. -/
  | error
deriving DecidableEq, Repr

def Severity.name : Severity → String
  | .debug => "DEBUG"
  | .info => "INFO"
  | .warn => "WARN"
  | .error => "ERROR"

/-- The value of a field of an event. -/
inductive FieldValue where
  | text (value : String)
  | number (value : Nat)
deriving DecidableEq, Repr

/-- Something that happened. -/
inductive Event where
  | bindingRegistered (contract : String) (profiles : ProfileSet)
  /-- A registry refused a binding because its phase is locked. -/
  | bindingRefused (contract : String) (generation : UInt64)
  /-- A registry dropped its bindings; `contracts` counts those it had until then. -/
  | registryCleared (generation : UInt64) (contracts : Nat)
  | phaseLocked (generation : UInt64)
  | generationStarted (previous generation : UInt64)
  /-- A contract had more than one valid binding when it was resolved. -/
  | ambiguousOverride (contract : String) (profiles : ProfileSet)
  /-- A contract could not be located because `candidates` bindings are valid. -/
  | ambiguousService (contract : String) (profiles : ProfileSet) (candidates : Nat)
  | manifestLoaded (path : String) (bindings : Nat)
  /-- A cache dropped `purged` entries whose keys had died, and keeps `remaining`. -/
  | keysSwept (purged remaining : Nat)
deriving DecidableEq, Repr

namespace Event

def severity : Event → Severity
  | bindingRegistered .. | registryCleared .. | ambiguousOverride .. | manifestLoaded .. => .debug
  | keysSwept .. => .debug
  | phaseLocked .. | generationStarted .. => .info
  | ambiguousService .. => .warn
  | bindingRefused .. => .error

def message : Event → String
  | bindingRegistered .. => "binding registered"
  | bindingRefused .. => "binding offered after registry lock"
  | registryCleared .. => "registry cleared"
  | phaseLocked .. => "registry lifecycle locked"
  | generationStarted .. => "registry lifecycle reset"
  | ambiguousOverride .. => "ambiguous binding override"
  | ambiguousService .. => "ambiguous service binding"
  | manifestLoaded .. => "binding manifest loaded"
  | keysSwept .. => "swept reclaimed cache keys"

/-- The fields of an event, by name. -/
def fields : Event → List (String × FieldValue)
  | bindingRegistered contract profiles =>
    [("contract", .text contract), ("profiles", .text profiles.text)]
  | bindingRefused contract generation =>
    [("contract", .text contract), ("generation", .number generation.toNat)]
  | registryCleared generation contracts =>
    [("generation", .number generation.toNat), ("contracts", .number contracts)]
  | phaseLocked generation => [("generation", .number generation.toNat)]
  | generationStarted previous generation =>
    [("previous", .number previous.toNat), ("generation", .number generation.toNat)]
  | ambiguousOverride contract profiles =>
    [("contract", .text contract), ("profiles", .text profiles.text)]
  | ambiguousService contract profiles candidates =>
    [("contract", .text contract), ("profiles", .text profiles.text),
      ("candidates", .number candidates)]
  | manifestLoaded path bindings => [("path", .text path), ("bindings", .number bindings)]
  | keysSwept purged remaining => [("purged", .number purged), ("remaining", .number remaining)]

end Event

end PluginHost
