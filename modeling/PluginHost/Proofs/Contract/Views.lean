import PluginHost.Proofs.Contract.Filling
import PluginHost.Proofs.Contract.Resolution

/-!
# All views of a registry agree

A contract can be resolved, searched for among its candidates, looked up in the report of the
ambiguous contracts, or located. `ViewsAgree` says what each of these answers, and every one of them
answers from the same list: the candidates whose required profiles are all active.
-/
namespace PluginHost

variable {α : Type}

namespace Locator

/-- A locator that was opened over a registry, and maybe given other profiles since. -/
inductive OpenedOver (registry : Registry α) (phases : Phases) : Locator α → Prop
  | opened {active : ProfileSet} {locator : Locator α}
      (h : ofRegistry registry phases active = .ok locator) : OpenedOver registry phases locator
  | reprofiled {locator : Locator α} (active : ProfileSet)
      (h : OpenedOver registry phases locator) :
      OpenedOver registry phases (locator.withProfiles active)

/-- A locator answers for a contract that has these valid candidates. -/
structure Locates (locator : Locator α) (contract : String) (valid : List (Binding α)) :
    Prop where
  ok_iff : ∀ binding, (locator.locateBinding contract).value = .ok binding ↔ valid = [binding]
  unbound_iff : (locator.locateBinding contract).value =
    .error (.unbound contract locator.active) ↔ valid = []
  ambiguous_iff : ∀ candidates, (locator.locateBinding contract).value =
    .error (.ambiguous contract locator.active candidates) ↔
      2 ≤ valid.length ∧ candidates = valid.length
  located_iff : ∀ implementation, (locator.locate contract).value = .ok implementation ↔
    ∃ binding, valid = [binding] ∧ binding.implementation = implementation
  failed_iff : ∀ error, (locator.locate contract).value = .error error ↔
    (locator.locateBinding contract).value = .error error

theorem ofRegistry_eq_ok_iff {registry : Registry α} {phases : Phases} {active : ProfileSet}
    {locator : Locator α} :
    ofRegistry registry phases active = .ok locator ↔
      registry.isLocked phases = true ∧ locator = ⟨registry, active⟩ := by
  rw [ofRegistry]
  split <;> simp [*, eq_comm]

theorem ofRegistry_eq_error_iff {registry : Registry α} {phases : Phases} {active : ProfileSet}
    {error : LocateError} :
    ofRegistry registry phases active = .error error ↔
      registry.isLocked phases = false ∧
        error = .notLocked (phases.generation registry.phase) := by
  rw [ofRegistry]
  split <;> simp [*, eq_comm]

theorem OpenedOver.registry_eq {registry : Registry α} {phases : Phases} {locator : Locator α}
    (h : OpenedOver registry phases locator) : locator.registry = registry := by
  induction h with
  | opened hopened => rw [(ofRegistry_eq_ok_iff.mp hopened).2]
  | reprofiled active _ ih => rw [registry_withProfiles, ih]

theorem locates (locator : Locator α) (contract : String) :
    locator.Locates contract (locator.registry.valid contract locator.active) where
  ok_iff binding := by rw [value_locateBinding, verdict_eq_ok_iff]
  unbound_iff := by
    rw [value_locateBinding, verdict_eq_unbound_iff]
    simp
  ambiguous_iff candidates := by
    rw [value_locateBinding, verdict_eq_ambiguous_iff]
    simp
  located_iff implementation := by
    rw [value_locate]
    cases hfound : (locator.locateBinding contract).value with
    | error error =>
      have hnone (binding : Binding α) :
          locator.registry.valid contract locator.active ≠ [binding] := fun hvalid => by
        rw [value_locateBinding, verdict_eq_ok_iff.mpr hvalid] at hfound
        cases hfound
      simp [Except.map, hnone]
    | ok found =>
      rw [value_locateBinding, verdict_eq_ok_iff] at hfound
      simp [Except.map, hfound]
  failed_iff error := by
    rw [value_locate]
    cases (locator.locateBinding contract).value <;> simp [Except.map]

theorem OpenedOver.locates {registry : Registry α} {phases : Phases} {locator : Locator α}
    (h : OpenedOver registry phases locator) (contract : String) :
    locator.Locates contract (registry.valid contract locator.active) := by
  rw [← h.registry_eq]
  exact locator.locates contract

end Locator

namespace Registry

/-- What the views of a registry answer under some active profiles, where the registry took these
bindings and the phases are as given. -/
structure ViewsAgree (registry : Registry α) (taken : List (Binding α)) (phases : Phases)
    (active : ProfileSet) : Prop where
  missing_iff : ∀ contract,
    (registry.resolve contract active).value = .missing ↔ registry.valid contract active = []
  unique_iff : ∀ contract binding,
    (registry.resolve contract active).value = .unique binding ↔
      registry.valid contract active = [binding]
  ambiguous_iff : ∀ contract first second,
    (registry.resolve contract active).value = .ambiguous first second ↔
      ∃ others, registry.valid contract active = first :: second :: others
  /-- Otherwise nothing is found. -/
  found_iff : ∀ contract binding,
    Resolution.findValid? active (registry.catalog.candidates contract) = some binding ↔
      registry.valid contract active = [binding]
  /-- Ambiguous contracts are reported in the order in which they were first taken. -/
  report : (registry.ambiguities active).map (·.contract) =
    (taken.map (·.contract)).eraseDups.filter fun contract =>
      (registry.resolve contract active).value.isAmbiguous
  report_nodup : ((registry.ambiguities active).map (·.contract)).Nodup
  reported_iff : ∀ contract, contract ∈ (registry.ambiguities active).map (·.contract) ↔
    (registry.resolve contract active).value.isAmbiguous = true
  reported_as : ∀ ambiguity ∈ registry.ambiguities active, ambiguity.profiles = active ∧
    (registry.resolve ambiguity.contract active).value =
      .ambiguous ambiguity.first ambiguity.second
  /-- A locator is refused exactly while the phase is open. -/
  refused_iff : ∀ error, Locator.ofRegistry registry phases active = .error error ↔
    registry.isLocked phases = false ∧ error = .notLocked (phases.generation registry.phase)
  opened : registry.isLocked phases = true →
    ∃ locator, Locator.ofRegistry registry phases active = .ok locator ∧ locator.active = active
  /-- It does not matter how a locator came to have the profiles. -/
  locates : ∀ locator, Locator.OpenedOver registry phases locator → locator.active = active →
    ∀ contract, locator.Locates contract (registry.valid contract active)
  /-- A locator that is given the profiles answers under them, whatever it answered under before. -/
  reprofiled : ∀ locator, Locator.OpenedOver registry phases locator →
    (locator.withProfiles active).active = active ∧
      ∀ contract,
        (locator.withProfiles active).Locates contract (registry.valid contract active)

/-- Every view of a registry answers from the valid candidates of a contract. -/
theorem views_agree {registry : Registry α} {taken : List (Binding α)}
    (h : registry.Filled taken) (phases : Phases) (active : ProfileSet) :
    registry.ViewsAgree taken phases active where
  missing_iff contract := by rw [value_resolve, Resolution.ofValid_eq_missing_iff]
  unique_iff contract binding := by rw [value_resolve, Resolution.ofValid_eq_unique_iff]
  ambiguous_iff contract first second := by
    rw [value_resolve, Resolution.ofValid_eq_ambiguous_iff]
  found_iff contract binding := by
    rw [Resolution.findValid?, Resolution.ofCandidates_eq, Resolution.unique?_ofValid, valid]
  report := contracts_ambiguities h.catalog_eq active
  report_nodup := by
    rw [contracts_ambiguities h.catalog_eq]
    exact (nodup_eraseDups _).filter _
  reported_iff contract := by
    rw [contracts_ambiguities h.catalog_eq, List.mem_filter]
    exact ⟨And.right, fun hambiguous =>
      ⟨mem_contracts_of_isAmbiguous h.catalog_eq hambiguous, hambiguous⟩⟩
  reported_as ambiguity hmem := resolve_of_mem_ambiguities h.catalog_eq hmem
  refused_iff error := Locator.ofRegistry_eq_error_iff
  opened hlocked := ⟨⟨registry, active⟩, Locator.ofRegistry_eq_ok_iff.mpr ⟨hlocked, rfl⟩, rfl⟩
  locates locator hopened hactive contract := hactive ▸ hopened.locates contract
  reprofiled locator hopened := by
    have hgiven : (locator.withProfiles active).active = active :=
      Locator.active_withProfiles locator active
    refine ⟨hgiven, fun contract => ?_⟩
    have hlocates := (Locator.OpenedOver.reprofiled active hopened).locates contract
    rwa [hgiven] at hlocates

/-- Three entries for two contracts. One of them requires a profile of the manifest's own. -/
def rivalManifest : Manifest where
  profiles := [("gpu", 7)]
  bindings := [⟨"clock", "Quartz", .names ["gpu"]⟩, ⟨"store", "Disk", .mask 1⟩,
    ⟨"clock", "Sundial", .mask 0⟩]

/-- What a registry took that was filled from a manifest and then got one more binding. -/
def rivals : List (Binding String) :=
  [⟨"clock", ⟨128⟩, "Quartz"⟩, ⟨"store", ⟨1⟩, "Disk"⟩, ⟨"clock", .any, "Sundial"⟩,
    ⟨"store", .any, "Memory"⟩]

/-- Under no profiles the clock is served. Given the profile that a rival requires, the same locator
finds two. -/
theorem views_agree_rivals :
    let opened : Phases := ⟨[⟨1, false⟩]⟩
    let locked : Phases := ⟨[⟨1, true⟩]⟩
    let active : ProfileSet := ⟨128⟩
    ∃ registry, registry.Filled rivals ∧
      Locator.ofRegistry registry opened active = .error (.notLocked 1) ∧
      (registry.ambiguities active).map (·.contract) = ["clock"] ∧
      (registry.resolve "clock" active).value =
        .ambiguous ⟨"clock", ⟨128⟩, "Quartz"⟩ ⟨"clock", .any, "Sundial"⟩ ∧
      ∃ locator, Locator.ofRegistry registry locked .any = .ok locator ∧
        (locator.locate "clock").value = .ok "Sundial" ∧
        ((locator.withProfiles active).locateBinding "clock").value =
          .error (.ambiguous "clock" active 2) ∧
        ((locator.withProfiles active).locate "store").value = .ok "Memory" ∧
        ((locator.withProfiles active).locateBinding "shelf").value =
          .error (.unbound "shelf" active) := by
  intro opened locked active
  let enrolled :=
    (rivalManifest.registerWith Manifest.nameMaker { phase := ⟨0⟩ } opened).value.registry
  let registry := { enrolled with catalog := enrolled.catalog.insert ⟨"store", .any, "Memory"⟩ }
  have hfilled : registry.Filled rivals :=
    .added ⟨"store", .any, "Memory"⟩ opened
      (.registered rivalManifest Manifest.nameMaker opened (.opened ⟨0⟩)) rfl
  have hopen := views_agree hfilled opened active
  have hany := views_agree hfilled locked .any
  have hlocked := views_agree hfilled locked active
  obtain ⟨locator, hlocator, hanyActive⟩ := hany.opened rfl
  have hopened : Locator.OpenedOver registry locked locator := .opened hlocator
  have hbefore := hany.locates locator hopened hanyActive
  obtain ⟨hactive, hafter⟩ := hlocked.reprofiled locator hopened
  have hclock := (hafter "clock").ambiguous_iff 2
  have hshelf := (hafter "shelf").unbound_iff
  rw [hactive] at hclock hshelf
  exact ⟨registry, hfilled, (hopen.refused_iff _).mpr ⟨rfl, rfl⟩, hopen.report.trans (by decide),
    (hopen.ambiguous_iff ..).mpr ⟨[], by decide⟩, locator, hlocator,
    ((hbefore "clock").located_iff _).mpr ⟨⟨"clock", .any, "Sundial"⟩, by decide, rfl⟩,
    hclock.mpr (by decide),
    ((hafter "store").located_iff _).mpr ⟨⟨"store", .any, "Memory"⟩, by decide, rfl⟩,
    hshelf.mpr (by decide)⟩

end Registry

end PluginHost
