import PluginHost.Proofs.Contract.Filling
import PluginHost.Proofs.Host.Calls

/-!
# The registries of a host

Whatever is called on a host and whatever steps it takes, each of its registries came about from
nothing. So what holds of filled registries holds of every registry that a host comes to have.
-/
namespace PluginHost.Host

variable {α : Type}

/-- Every registry of a host came about from nothing. -/
def AllFilled (host : Host α) : Prop :=
  ∀ registry ∈ host.registries, ∃ taken, registry.Filled taken

namespace AllFilled

theorem start : AllFilled ({} : Host α) := fun _ hregistry => by cases hregistry

theorem openRegistry {host : Host α} (h : host.AllFilled) (phase : PhaseId) :
    (host.openRegistry phase).AllFilled := by
  intro registry hregistry
  rcases List.mem_append.mp hregistry with hregistry | hregistry
  · exact h registry hregistry
  · rw [List.mem_singleton.mp hregistry]
    exact ⟨[], .opened phase⟩

theorem setRegistry {host : Host α} (h : host.AllFilled) (position : Nat) {registry : Registry α}
    {taken : List (Binding α)} (hfilled : registry.Filled taken) :
    (host.setRegistry position registry).AllFilled := by
  intro other hother
  rcases List.mem_or_eq_of_mem_set hother with hother | rfl
  · exact h other hother
  · exact ⟨taken, hfilled⟩

theorem takes {host : Host α} (h : host.AllFilled) {call : HostCall α}
    {taken : Traced (HostReply × Host α)} (htakes : Takes host call taken) :
    taken.value.2.AllFilled := by
  cases htakes with
  | opened => exact h.openRegistry _
  | added binding hregistry hopen =>
    obtain ⟨bindings, hfilled⟩ := h _ (List.mem_of_getElem? hregistry)
    exact h.setRegistry _ (.added binding _ hfilled (Manifest.add_of_open hopen binding))
  | cleared hregistry =>
    obtain ⟨bindings, hfilled⟩ := h _ (List.mem_of_getElem? hregistry)
    exact h.setRegistry _ (.cleared host.phases hfilled)
  | started | startedNext | locked | relocked | issued | refused => exact h

theorem run? {calls : List (HostCall α)} {host : Host α}
    (hrun : ({} : Host α).run? calls = some host) : host.AllFilled :=
  run?_induction (motive := fun _ host => host.AllFilled) start
    (fun _ _ _ _ _ hcall h => h.takes (takes_of_call? hcall)) hrun

theorem enrol {host : Host String} (h : host.AllFilled) {position : Nat}
    {registry : Registry String} (hregistry : host.registries[position]? = some registry)
    (text : String) (make : Maker String) :
    (host.enrol position registry text make).value.2.AllFilled := by
  cases hparsed : Manifest.parse text with
  | error error =>
    simp only [Host.enrol, hparsed]
    exact h
  | ok manifest =>
    obtain ⟨bindings, hfilled⟩ := h _ (List.mem_of_getElem? hregistry)
    simp only [Host.enrol, hparsed]
    exact setRegistry h position (.registered manifest make host.phases hfilled)

/-- A step that is none of the calls changes a registry only by a manifest. -/
theorem perform? {host : Host String} (h : host.AllFilled) {step : HostStep}
    {taken : Traced (HostReply × Host String)} (hstep : host.perform? step = some taken) :
    taken.value.2.AllFilled := by
  have hcall (call : HostCall String) (hsame : call.toStep = step) : taken.value.2.AllFilled := by
    rw [← hsame, perform?_toStep] at hstep
    exact h.takes (takes_of_call? hstep)
  cases step with
  | startLifecycle => exact hcall .startLifecycle rfl
  | startNext lifecycle => exact hcall (.startNext lifecycle) rfl
  | lock lifecycle => exact hcall (.lock lifecycle) rfl
  | issueToken lifecycle => exact hcall (.issueToken lifecycle) rfl
  | openRegistry holder => exact hcall (.openRegistry holder) rfl
  | add registry binding => exact hcall (.add registry binding) rfl
  | clear registry => exact hcall (.clear registry) rfl
  | register position text =>
    obtain ⟨registry, hregistry, hreturn⟩ := Option.bind_eq_some_iff.mp hstep
    cases hreturn
    exact h.enrol hregistry text Manifest.nameMaker
  | registerNumbered position lifecycle text lockAt? =>
    obtain ⟨registry, hregistry, hphase⟩ := Option.bind_eq_some_iff.mp hstep
    obtain ⟨phase, -, hreturn⟩ := Option.bind_eq_some_iff.mp hphase
    cases hreturn
    exact h.enrol hregistry text (numberedMaker phase lockAt?)
  | comparePhases first second =>
    obtain ⟨one, -, hsecond⟩ := Option.bind_eq_some_iff.mp hstep
    obtain ⟨other, -, hreturn⟩ := Option.bind_eq_some_iff.mp hsecond
    cases hreturn
    exact h
  | unknown => cases hstep
  | _ =>
    obtain ⟨found, -, hreturn⟩ := Option.bind_eq_some_iff.mp hstep
    cases hreturn
    exact h

theorem perform {host : Host String} (h : host.AllFilled) (step : HostStep) :
    (host.perform step).value.2.AllFilled := by
  cases hstep : host.perform? step with
  | none =>
    rw [Host.perform, hstep]
    exact h
  | some taken =>
    rw [Host.perform, hstep]
    exact h.perform? hstep

end AllFilled

end PluginHost.Host
