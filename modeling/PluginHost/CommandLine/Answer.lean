import PluginHost.CommandLine.Request
import PluginHost.Contract.Locator
import PluginHost.Manifest.Registration
import PluginHost.Manifest.Source
import PluginHost.Text.Pad

/-!
# Answers of the command line

A query loads its manifest the way a host does: the bindings are registered, the registry is locked,
and the question is put to the locked registry. An answer is a text on each of two channels and
whether the query succeeded. Events that are reported on the way are diagnostics for whoever
listens, and no part of the answer.
-/
namespace PluginHost.CommandLine

/-- What a command line is answered. -/
structure Answer where
  /-- Whether the query ran and its answer is not a failure. -/
  succeeded : Bool := true
  output : String := ""
  /-- What is said of a failure, without the diagnostics. -/
  complaint : String := ""
deriving DecidableEq, Repr

namespace Answer

def exitCode (answer : Answer) : Nat := if answer.succeeded then 0 else 1

/-- The exit code where a command line is misused. -/
def misuseCode : Nat := 2

def ofLines (lines : List String) : String := String.join (lines.map (· ++ "\n"))

end Answer

/-- Why a query was not put. -/
inductive Failure where
  | load (error : LoadError)
  /-- A binding of the manifest at `path` could not be registered. -/
  | registration (path : String) (error : RegistrationError)
  | profile (error : ProfileError)
  | locator (error : LocateError)
deriving DecidableEq, Repr

namespace Failure

def because (problem reason : String) : String :=
  s!"Error: {problem}\n\nCaused by:\n    {reason}\n"

def complaint : Failure → String
  | load (.unreadable path reason) =>
    because (LoadError.unreadable path reason).message reason.message
  | load (.invalid error) => s!"Error: {(LoadError.invalid error).message}"
  | registration path error => because s!"registering bindings from {path}" error.message
  | profile error => s!"Error: {error.message}\n"
  | locator error => s!"Error: {error.message}\n"

def answer (failure : Failure) : Answer :=
  { succeeded := false, complaint := failure.complaint }

end Failure

/-- A locked registry with the bindings of one manifest, and the active profiles. -/
structure Loaded where
  /-- The phases, of which the registry's is locked. -/
  phases : Phases
  registry : Registry String
  active : ProfileSet

namespace Loaded

/-- Registers the bindings of the manifest at `path`, locks the registry and works out the active
profiles. -/
def ofManifest (selection : Selection) (manifest : Manifest) : Except Failure Loaded := do
  let (phase, phases) := Phases.openFirst {}
  let registration := (manifest.registerInto { phase := phase } phases).value
  match registration.result with
  | .error error => throw (.registration selection.manifest error)
  | .ok _ =>
    let (_, phases) := (registration.phases.lock phase).value
    let named ←
      (if selection.profiles.isEmpty then manifest.activeProfiles
        else manifest.profileSet selection.profiles).mapError .profile
    return ⟨phases, registration.registry, named ∪ ⟨selection.mask⟩⟩

/-- Loads the manifest of a selection, given what reading a file gives. -/
def ofSelection (read : String → Except ReadError ByteArray) (selection : Selection) :
    Except Failure Loaded := do
  let manifest ←
    (Manifest.load selection.manifest (read selection.manifest)).value.mapError .load
  ofManifest selection manifest

def validCandidates (loaded : Loaded) (contract : String) : List (Binding String) :=
  (loaded.registry.catalog.candidates contract).filter (·.isValidFor loaded.active)

end Loaded

/-- The line that tells which binding serves its contract. -/
def bindingLine (binding : Binding String) : String :=
  s!"{binding.contract} -> {binding.implementation} (requires {binding.profiles})"

/-- The line that tells of one of several candidates. -/
def candidateLine (binding : Binding String) : String :=
  s!"  candidate {binding.implementation} (requires {binding.profiles})"

def ambiguityLine (ambiguity : Ambiguity String) : String :=
  s!"{ambiguity.contract}: {ambiguity.first.implementation} and " ++
    s!"{ambiguity.second.implementation} are both valid under {ambiguity.profiles}"

/-- The line that tells that there is no ambiguity. -/
def unambiguousLine (loaded : Loaded) : String :=
  s!"{loaded.registry.catalog.contracts.length} contracts, " ++
    s!"no ambiguous bindings under {loaded.active}"

/-- The line that tells what size a policy gives to a length. -/
def sizeLine (policy : Allocation.Policy) (len : UInt64) : String :=
  Text.padLeft 16 policy.name ++ " " ++ Text.padLeft 12 (toString len) ++
    s!" -> {policy.allocationSize len}"

/-- Answers which binding serves a contract. Where several could, all of them are told. The warning
that the locator emits then is a diagnostic, and not part of the complaint. -/
def Loaded.resolve (loaded : Loaded) (contract : String) : Answer :=
  match Locator.ofRegistry loaded.registry loaded.phases loaded.active with
  | .error error => (Failure.locator error).answer
  | .ok locator =>
    match (locator.locateBinding contract).value with
    | .ok binding => { output := Answer.ofLines [bindingLine binding] }
    | .error error =>
      let candidates := match error with
        | .ambiguous .. => loaded.validCandidates contract
        | .unbound .. | .notLocked _ => []
      { succeeded := false
        complaint := Answer.ofLines (error.message :: candidates.map candidateLine) }

def Loaded.check (loaded : Loaded) : Answer :=
  match loaded.registry.ambiguities loaded.active with
  | [] => { output := Answer.ofLines [unambiguousLine loaded] }
  | ambiguities =>
    { succeeded := false, output := Answer.ofLines (ambiguities.map ambiguityLine) }

/-- Answers what sizes the policies give to the lengths. -/
def sizes (policies : List Allocation.Policy) (lengths : List UInt64) : Answer :=
  { output := Answer.ofLines (policies.flatMap fun policy => lengths.map (sizeLine policy)) }

def Selection.answer (read : String → Except ReadError ByteArray) (question : Loaded → Answer)
    (selection : Selection) : Answer :=
  match Loaded.ofSelection read selection with
  | .error failure => failure.answer
  | .ok loaded => question loaded

/-- The answer to a command, given what reading a file gives. -/
def Command.answer (read : String → Except ReadError ByteArray) : Command → Answer
  | .resolve selection contract => selection.answer read (·.resolve contract)
  | .check selection => selection.answer read Loaded.check
  | .capacity policy? lengths =>
    sizes (policy?.elim Allocation.Policy.all ([·])) lengths

def versionLine : String := "trellis 0.3.0"

/-- The answer to a request, given what reading a file gives. -/
def Request.answered (read : String → Except ReadError ByteArray) : Request → Answer
  | .version => { output := Answer.ofLines [versionLine] }
  | .answer command => command.answer read

end PluginHost.CommandLine
