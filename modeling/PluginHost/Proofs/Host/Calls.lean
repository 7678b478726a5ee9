import Mathlib.Data.List.Induction
import PluginHost.Host.Run

/-!
# Calls on a host

The calls that change a host, as data, so that there are lists of them. A call names lifecycles,
tokens and registries by position, and one that names something that does not exist cannot be made.
`Takes` says once what each call does; what is shown of runs rests on it alone.
-/
namespace PluginHost

/-- A call that changes a host. -/
inductive HostCall (α : Type) where
  | startLifecycle
  | startNext (lifecycle : Nat)
  | lock (lifecycle : Nat)
  | issueToken (lifecycle : Nat)
  | openRegistry (source : PhaseHolder)
  | add (registry : Nat) (binding : Binding α)
  | clear (registry : Nat)
deriving DecidableEq, Repr

/-- The step that makes the call. -/
def HostCall.toStep : HostCall String → HostStep
  | .startLifecycle => .startLifecycle
  | .startNext lifecycle => .startNext lifecycle
  | .lock lifecycle => .lock lifecycle
  | .issueToken lifecycle => .issueToken lifecycle
  | .openRegistry source => .openRegistry source
  | .add registry binding => .add registry binding
  | .clear registry => .clear registry

/-- Whatever observes a phase. -/
inductive Holder where
  | lifecycle (position : Nat)
  | token (position : Nat)
  | registry (position : Nat)
deriving DecidableEq, Repr

/-- What a registry can be opened from observes a phase itself. -/
def PhaseHolder.toHolder : PhaseHolder → Holder
  | .lifecycle position => .lifecycle position
  | .token position => .token position

namespace Host

variable {α : Type}

/-- The phase that a holder observes, if there is such a holder. -/
def observed? (host : Host α) : Holder → Option PhaseId
  | .lifecycle position => host.lifecycles[position]?
  | .token position => host.tokens[position]?
  | .registry position => host.registries[position]?.map (·.phase)

/-- Makes a call, if what it names exists. -/
def call? (host : Host α) : HostCall α → Option (Traced (HostReply × Host α))
  | .startLifecycle => some (pure (.position host.lifecycles.length, host.startLifecycle))
  | .startNext lifecycle => do
    let phase ← host.lifecycles[lifecycle]?
    return do return (.position host.lifecycles.length, ← host.startNext phase)
  | .lock lifecycle => do
    let phase ← host.lifecycles[lifecycle]?
    return do
      let (closed, host) ← host.lock phase
      return (.flag closed, host)
  | .issueToken lifecycle => do
    let phase ← host.lifecycles[lifecycle]?
    return pure (.position host.tokens.length, host.issueToken phase)
  | .openRegistry source => do
    let phase ← host.observed? source.toHolder
    return pure (.position host.registries.length, host.openRegistry phase)
  | .add registry binding => do
    let added ← host.add? registry binding
    return do
      match ← added with
      | (.ok (), host) => return (.acknowledged, host)
      | (.error error, host) => return (.refused error, host)
  | .clear registry => do
    let cleared ← host.clear? registry
    return do return (.acknowledged, ← cleared)

/-- A host takes the step of the same name like the call. -/
theorem perform?_toStep (host : Host String) (call : HostCall String) :
    host.perform? call.toStep = host.call? call := by
  cases call with
  | openRegistry source => cases source <;> rfl
  | add position binding =>
    simp only [HostCall.toStep, perform?, call?]
    cases host.add? position binding with
    | none => rfl
    | some added =>
      obtain ⟨⟨answer, host⟩, events⟩ := added
      cases answer <;> rfl
  | _ => rfl

/-! ## What a call does -/

/-- What each call does to a host that it can be made on. -/
inductive Takes (host : Host α) : HostCall α → Traced (HostReply × Host α) → Prop
  | started :
      Takes host .startLifecycle
        { value := (.position host.lifecycles.length,
            { host with
              phases := ⟨host.phases.opened ++ [⟨1, false⟩]⟩
              lifecycles := host.lifecycles ++ [⟨host.phases.opened.length⟩] }) }
  | startedNext {lifecycle previous} (hlifecycle : host.lifecycles[lifecycle]? = some previous) :
      Takes host (.startNext lifecycle)
        { value := (.position host.lifecycles.length,
            { host with
              phases := ⟨host.phases.opened ++ [⟨host.phases.generation previous + 1, false⟩]⟩
              lifecycles := host.lifecycles ++ [⟨host.phases.opened.length⟩] })
          events := [.generationStarted (host.phases.generation previous)
            (host.phases.generation previous + 1)] }
  /-- The phase was open until now. -/
  | locked {lifecycle phase window} (hlifecycle : host.lifecycles[lifecycle]? = some phase)
      (hphase : host.phases.get? phase = some window) (hopen : window.isLocked = false) :
      Takes host (.lock lifecycle)
        { value := (.flag true,
            { host with
              phases := ⟨host.phases.opened.set phase.index { window with isLocked := true }⟩ })
          events := [.phaseLocked window.generation] }
  /-- The phase is not open. -/
  | relocked {lifecycle phase} (hlifecycle : host.lifecycles[lifecycle]? = some phase)
      (hclosed : ∀ window, host.phases.get? phase = some window → window.isLocked = true) :
      Takes host (.lock lifecycle) { value := (.flag false, host) }
  | issued {lifecycle phase} (hlifecycle : host.lifecycles[lifecycle]? = some phase) :
      Takes host (.issueToken lifecycle)
        { value := (.position host.tokens.length, { host with tokens := host.tokens ++ [phase] }) }
  | opened {source phase} (hsource : host.observed? source.toHolder = some phase) :
      Takes host (.openRegistry source)
        { value := (.position host.registries.length,
            { host with registries := host.registries ++ [{ phase := phase }] }) }
  | added {position registry} (binding : Binding α)
      (hregistry : host.registries[position]? = some registry)
      (hopen : host.phases.isLocked registry.phase = false) :
      Takes host (.add position binding)
        { value := (.acknowledged,
            host.setRegistry position
              { registry with catalog := registry.catalog.insert binding })
          events := [.bindingRegistered binding.contract binding.profiles] }
  | refused {position registry} (binding : Binding α)
      (hregistry : host.registries[position]? = some registry)
      (hlocked : host.phases.isLocked registry.phase = true) :
      Takes host (.add position binding)
        { value := (.refused
            (.locked binding.contract (host.phases.generation registry.phase)), host)
          events := [.bindingRefused binding.contract (host.phases.generation registry.phase)] }
  | cleared {position registry} (hregistry : host.registries[position]? = some registry) :
      Takes host (.clear position)
        { value := (.acknowledged,
            host.setRegistry position { registry with catalog := .empty })
          events := [.registryCleared (host.phases.generation registry.phase)
            registry.catalog.contracts.length] }

theorem takes_of_call? {host : Host α} {call : HostCall α} {taken : Traced (HostReply × Host α)}
    (h : host.call? call = some taken) : Takes host call taken := by
  cases call with
  | startLifecycle =>
    cases h
    exact .started
  | startNext lifecycle =>
    obtain ⟨previous, hlifecycle, hreturn⟩ := Option.bind_eq_some_iff.mp h
    cases hreturn
    exact .startedNext hlifecycle
  | lock lifecycle =>
    obtain ⟨phase, hlifecycle, hreturn⟩ := Option.bind_eq_some_iff.mp h
    cases hreturn
    cases hphase : host.phases.get? phase with
    | none =>
      simp only [lock, Phases.lock, hphase]
      exact .relocked hlifecycle fun window hwindow => by simp [hphase] at hwindow
    | some window =>
      cases hopen : window.isLocked with
      | false =>
        simp only [lock, Phases.lock, hphase, hopen]
        exact .locked hlifecycle hphase hopen
      | true =>
        simp only [lock, Phases.lock, hphase, hopen]
        exact .relocked hlifecycle fun other hother => by
          rw [hphase] at hother
          exact Option.some.inj hother ▸ hopen
  | issueToken lifecycle =>
    obtain ⟨phase, hlifecycle, hreturn⟩ := Option.bind_eq_some_iff.mp h
    cases hreturn
    exact .issued hlifecycle
  | openRegistry source =>
    obtain ⟨phase, hsource, hreturn⟩ := Option.bind_eq_some_iff.mp h
    cases hreturn
    exact .opened hsource
  | add position binding =>
    obtain ⟨added, hadded, hreturn⟩ := Option.bind_eq_some_iff.mp h
    obtain ⟨registry, hregistry, hoffer⟩ := Option.bind_eq_some_iff.mp hadded
    cases hreturn
    cases hoffer
    cases hlocked : host.phases.isLocked registry.phase with
    | false =>
      simp only [Registry.add, Registry.isLocked, hlocked]
      exact .added binding hregistry hlocked
    | true =>
      simp only [Registry.add, Registry.isLocked, hlocked]
      exact .refused binding hregistry hlocked
  | clear position =>
    obtain ⟨cleared, hcleared, hreturn⟩ := Option.bind_eq_some_iff.mp h
    obtain ⟨registry, hregistry, hempty⟩ := Option.bind_eq_some_iff.mp hcleared
    cases hreturn
    cases hempty
    exact .cleared hregistry

/-! ## Runs -/

/-- Makes calls in turn, if every one of them can be made. -/
def run? (host : Host α) (calls : List (HostCall α)) : Option (Host α) :=
  calls.foldlM (fun host call => (host.call? call).map (·.value.2)) host

/-- The answers to calls made in turn, up to one that cannot be made. -/
def replies (host : Host α) : List (HostCall α) → List HostReply
  | [] => []
  | call :: calls =>
    match host.call? call with
    | none => []
    | some taken => taken.value.1 :: replies taken.value.2 calls

theorem run?_cons {host later : Host α} {call : HostCall α} {calls : List (HostCall α)} :
    host.run? (call :: calls) = some later ↔
      ∃ taken, host.call? call = some taken ∧ taken.value.2.run? calls = some later := by
  simp [run?, Option.bind_eq_some_iff]

theorem run?_append {host later : Host α} {first second : List (HostCall α)} :
    host.run? (first ++ second) = some later ↔
      ∃ middle, host.run? first = some middle ∧ middle.run? second = some later := by
  simp [run?, Option.bind_eq_some_iff]

theorem run?_concat {host later : Host α} {calls : List (HostCall α)} {call : HostCall α} :
    host.run? (calls ++ [call]) = some later ↔
      ∃ before taken, host.run? calls = some before ∧ before.call? call = some taken ∧
        taken.value.2 = later := by
  rw [run?_append]
  simp [run?]

theorem replies_concat {host before : Host α} {calls : List (HostCall α)} {call : HostCall α}
    {taken : Traced (HostReply × Host α)} (hrun : host.run? calls = some before)
    (hcall : before.call? call = some taken) :
    host.replies (calls ++ [call]) = host.replies calls ++ [taken.value.1] := by
  induction calls generalizing host with
  | nil =>
    cases hrun
    simp [replies, hcall]
  | cons first calls ih =>
    obtain ⟨answered, hfirst, hrest⟩ := run?_cons.mp hrun
    simp only [List.cons_append, replies, hfirst, ih hrest]

theorem length_replies {host later : Host α} {calls : List (HostCall α)}
    (hrun : host.run? calls = some later) : (host.replies calls).length = calls.length := by
  induction calls generalizing host with
  | nil => rfl
  | cons call calls ih =>
    obtain ⟨taken, hcall, hrest⟩ := run?_cons.mp hrun
    simp only [replies, hcall, List.length_cons, ih hrest]

/-- What holds at the start of a run and is kept by every call holds at the end. -/
theorem run?_induction {host : Host α} {motive : List (HostCall α) → Host α → Prop}
    (start : motive [] host)
    (step : ∀ calls before call taken, host.run? calls = some before →
      before.call? call = some taken → motive calls before →
      motive (calls ++ [call]) taken.value.2)
    {calls : List (HostCall α)} {later : Host α} (hrun : host.run? calls = some later) :
    motive calls later := by
  induction calls using List.reverseRecOn generalizing later with
  | nil =>
    cases hrun
    exact start
  | append_singleton calls call ih =>
    obtain ⟨before, taken, hbefore, hcall, rfl⟩ := run?_concat.mp hrun
    exact step calls before call taken hbefore hcall (ih hbefore)

end Host

end PluginHost
