import PluginHost.Host.Basic
import PluginHost.Host.Script

/-!
# Running a host

What each step of a host does. The events of a step are kept beside its answer.
-/
namespace PluginHost.Host

/-- The phase that a holder observes, if there is such a holder. -/
def phaseOf? (host : Host String) : PhaseHolder → Option PhaseId
  | .lifecycle position => host.lifecycles[position]?
  | .token position => host.tokens[position]?

def look (host : Host String) (reply : HostReply) : Traced (HostReply × Host String) :=
  return (reply, host)

/-- Makes numbered implementations: the number, counted from one, the contract and the name. While
the one at `lockAt?` is made, the phase is locked. -/
def numberedMaker (phase : PhaseId) (lockAt? : Option Nat) : Maker String := fun made entry _ =>
  { implementation := s!"{made + 1}:{entry.contract}/{entry.implementation}"
    locked := if lockAt? = some made then [phase] else [] }

/-- Registers the manifest in a text with the registry at this position. The answer is the number of
bindings registered, and of implementations made. -/
def enrol (host : Host String) (position : Nat) (registry : Registry String) (text : String)
    (make : Maker String) : Traced ((Except EnrolmentError Nat × Nat) × Host String) := do
  match Manifest.parse text with
  | .error error => return ((.error (.parse error), 0), host)
  | .ok manifest =>
    let registration ← manifest.registerWith make registry host.phases
    return ((registration.result.mapError .registration, registration.made),
      { host with phases := registration.phases }.setRegistry position registration.registry)

/-- Locates a contract, first for its implementation and then for its binding. -/
def locate (host : Host String) (registry : Registry String) (contract : String)
    (active : ProfileSet) (later? : Option ProfileSet) : Traced HostReply := do
  match Locator.ofRegistry registry host.phases active with
  | .error error => return .closed error
  | .ok opened =>
    let locator := later?.elim opened opened.withProfiles
    let found ← locator.locate contract
    let binding ← locator.locateBinding contract
    return .located locator.active found binding.toOption

/-- Takes a step, unless it names something that does not exist. -/
def perform? (host : Host String) : HostStep → Option (Traced (HostReply × Host String))
  | .startLifecycle =>
    some (pure (.position host.lifecycles.length, host.startLifecycle))
  | .startNext lifecycle => do
    let phase ← host.lifecycles[lifecycle]?
    return do return (.position host.lifecycles.length, ← host.startNext phase)
  | .lock lifecycle => do
    let phase ← host.lifecycles[lifecycle]?
    return do
      let (closed, host) ← host.lock phase
      return (.flag closed, host)
  | .issueToken lifecycle => do
    let phase ← host.lifecycles[lifecycle]?
    return pure (.position host.tokens.length, host.issueToken phase)
  | .observe holder => do
    let phase ← host.phaseOf? holder
    return host.look (.phase (host.phases.generation phase) (host.phases.isLocked phase))
  | .comparePhases first second => do
    let first ← host.tokens[first]?
    let second ← host.tokens[second]?
    return host.look (.flag (first = second))
  | .openRegistry holder => do
    let phase ← host.phaseOf? holder
    return pure (.position host.registries.length, host.openRegistry phase)
  | .overview registry => do
    let registry ← host.registries[registry]?
    return host.look
      (.overview (host.phases.generation registry.phase) (registry.isLocked host.phases)
        registry.catalog.size registry.catalog.isEmpty registry.catalog.contracts)
  | .add registry binding => do
    let added ← host.add? registry binding
    return do
      match ← added with
      | (.ok (), host) => return (.acknowledged, host)
      | (.error error, host) => return (.refused error, host)
  | .clear registry => do
    let cleared ← host.clear? registry
    return do return (.acknowledged, ← cleared)
  | .list registry => do
    let registry ← host.registries[registry]?
    return host.look (.groups registry.catalog.groups)
  | .candidates registry contract => do
    let registry ← host.registries[registry]?
    return host.look (.candidates (registry.catalog.candidates contract))
  | .resolve registry contract active => do
    let registry ← host.registries[registry]?
    return do return (.resolution (← registry.resolve contract active), host)
  | .findValid registry contract active => do
    let registry ← host.registries[registry]?
    let candidates := registry.catalog.candidates contract
    return host.look
      (.search (candidates.map (·.isValidFor active)) (Resolution.findValid? active candidates))
  | .ambiguities registry active => do
    let registry ← host.registries[registry]?
    return host.look (.ambiguities (registry.ambiguities active))
  | .locate registry contract active later? => do
    let registry ← host.registries[registry]?
    return do return (← host.locate registry contract active later?, host)
  | .register position text => do
    let registry ← host.registries[position]?
    return do
      let ((result, _), host) ← host.enrol position registry text Manifest.nameMaker
      return (.registered result, host)
  | .registerNumbered position lifecycle text lockAt? => do
    let registry ← host.registries[position]?
    let phase ← host.lifecycles[lifecycle]?
    return do
      let ((result, made), host) ←
        host.enrol position registry text (numberedMaker phase lockAt?)
      return (.registeredNumbered result made, host)
  | .unknown => none

/-- Takes a step. An invalid one changes nothing. -/
def perform (host : Host String) (step : HostStep) : Traced (HostReply × Host String) :=
  (host.perform? step).getD (host.look .invalid)

/-- Takes steps in turn, and tells the answer to each with its events. -/
def performAll (host : Host String) : List HostStep → List (Traced HostReply)
  | [] => []
  | step :: steps =>
    let taken := host.perform step
    { value := taken.value.1, events := taken.events } :: performAll taken.value.2 steps

/-- The answers of a host that starts with nothing. -/
def run (steps : List HostStep) : List (Traced HostReply) := ({} : Host String).performAll steps

end PluginHost.Host
