import PluginHost.Proofs.Manifest.Registration

/-!
# Registries that were filled from nothing

A registry starts without bindings. It takes one binding at a time or those of a manifest, and it
may be cleared; the phases around it may be any at each of these moments. `Filled` holds of the
registries that come about in this way and tells what they took since they were last cleared.
-/
namespace PluginHost

variable {α : Type}

/-- The bindings that registering a manifest adds to a registry. There are none if a profile name of
the manifest stands for no set, and those of the calls until the phase was locked otherwise. -/
def Manifest.accepted (manifest : Manifest) (make : Maker α) (registry : Registry α)
    (phases : Phases) : List (Binding α) :=
  match manifest.resolvedEntries manifest.bindings with
  | .error _ => []
  | .ok entries =>
    let calls := course make 0 entries phases
    (calls.take (openCalls registry calls)).map MakerCall.binding

theorem Manifest.registry_registerWith (manifest : Manifest) (make : Maker α)
    (registry : Registry α) (phases : Phases) :
    (manifest.registerWith make registry phases).value.registry =
      { registry with
        catalog := registry.catalog.insertAll (manifest.accepted make registry phases) } := by
  cases hentries : manifest.resolvedEntries manifest.bindings with
  | error error =>
    simp only [registerWith, accepted, hentries]
    rfl
  | ok entries =>
    simp only [registerWith, accepted, hentries, registerEntries_eq_outcome]
    rfl

namespace Registry

/-- A registry that came about from nothing, with the bindings that it took since it was last
cleared, oldest first. -/
inductive Filled : Registry α → List (Binding α) → Prop
  | opened (phase : PhaseId) : Filled { phase := phase } []
  | added {registry filled : Registry α} {taken : List (Binding α)} (binding : Binding α)
      (phases : Phases) (h : Filled registry taken)
      (hadded : (registry.add phases binding).value = .ok filled) :
      Filled filled (taken ++ [binding])
  | registered {registry : Registry α} {taken : List (Binding α)} (manifest : Manifest)
      (make : Maker α) (phases : Phases) (h : Filled registry taken) :
      Filled (manifest.registerWith make registry phases).value.registry
        (taken ++ manifest.accepted make registry phases)
  | cleared {registry : Registry α} {taken : List (Binding α)} (phases : Phases)
      (h : Filled registry taken) : Filled (registry.clear phases).value []

theorem catalog_of_add_eq_ok {registry filled : Registry α} {phases : Phases} {binding : Binding α}
    (h : (registry.add phases binding).value = .ok filled) :
    filled.catalog = registry.catalog.insert binding := by
  cases hlocked : registry.isLocked phases with
  | true =>
    rw [Manifest.add_of_locked hlocked] at h
    cases h
  | false =>
    rw [Manifest.add_of_open hlocked] at h
    cases h
    rfl

/-- What a registry took, grouped by contract, is what it holds. -/
theorem Filled.catalog_eq {registry : Registry α} {taken : List (Binding α)}
    (h : Filled registry taken) : registry.catalog = .grouped taken := by
  induction h with
  | opened phase => exact Catalog.grouped_nil.symm
  | added binding phases _ hadded ih =>
    rw [catalog_of_add_eq_ok hadded, ih, Catalog.insert_grouped]
  | registered manifest make phases _ ih =>
    rw [Manifest.registry_registerWith, ih, Catalog.insertAll_grouped]
  | cleared phases _ _ => exact Catalog.grouped_nil.symm

end Registry

end PluginHost
