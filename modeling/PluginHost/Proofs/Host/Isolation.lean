import PluginHost.Proofs.Host.Lineage

/-!
# Phases gate and isolate

A lock reaches exactly the holders that stem from the opening of the lifecycle it was called on,
also where others are of the same generation. From then on a registry in that phase takes nothing
more: it stays as it is, or empty once it was cleared.
-/
namespace PluginHost

variable {α : Type}

/-- The holder that a call names. -/
def HostCall.named? : HostCall α → Option Holder
  | .startLifecycle => none
  | .startNext lifecycle | .lock lifecycle | .issueToken lifecycle => some (.lifecycle lifecycle)
  | .openRegistry source => some source.toHolder
  | .add registry _ | .clear registry => some (.registry registry)

namespace Host

/-- The generation that a holder is of. -/
def generation? (host : Host α) (holder : Holder) : Option UInt64 :=
  (host.observed? holder).map host.phases.generation

/-- Whether a holder is locked. -/
def isLocked? (host : Host α) (holder : Holder) : Option Bool :=
  (host.observed? holder).map host.phases.isLocked

/-- Two holders observe the same phase. -/
def Share (host : Host α) (first second : Holder) : Prop :=
  ∃ phase, host.observed? first = some phase ∧ host.observed? second = some phase

theorem isSome_call? (host : Host α) (call : HostCall α) :
    (host.call? call).isSome = true ↔
      ∀ holder, call.named? = some holder → (host.observed? holder).isSome = true := by
  cases call with
  | startLifecycle => simp [call?, HostCall.named?]
  | openRegistry source =>
    cases h : host.observed? source.toHolder <;> simp [call?, HostCall.named?, h]
  | startNext lifecycle | lock lifecycle | issueToken lifecycle =>
    cases h : host.lifecycles[lifecycle]? <;> simp [call?, HostCall.named?, observed?, h]
  | add position _ | clear position =>
    cases h : host.registries[position]? <;>
      simp [call?, add?, clear?, HostCall.named?, observed?, h]

namespace Told

variable {lineage : Lineage} {host : Host α}

theorem share_iff (h : Told lineage host) (first second : Holder) :
    host.Share first second ↔
      ∃ origin, lineage.origin? first = some origin ∧ lineage.origin? second = some origin := by
  simp only [Share, h.observed?_eq, Option.map_eq_some_iff]
  constructor
  · rintro ⟨phase, ⟨origin, hfirst, rfl⟩, other, hsecond, heq⟩
    cases heq
    exact ⟨origin, hfirst, hsecond⟩
  · rintro ⟨origin, hfirst, hsecond⟩
    exact ⟨⟨origin⟩, ⟨origin, hfirst, rfl⟩, origin, hsecond, rfl⟩

theorem generation?_eq (h : Told lineage host) {holder : Holder} {origin : Nat}
    (horigin : lineage.origin? holder = some origin) :
    host.generation? holder = lineage.generations[origin]? := by
  obtain ⟨window, hwindow, hgeneration, -⟩ := h.window horigin
  rw [generation?, h.observed?_eq, horigin, hgeneration, Option.map_some, Option.map_some,
    Phases.generation, hwindow]
  rfl

theorem isLocked?_eq (h : Told lineage host) {holder : Holder} {origin : Nat}
    (horigin : lineage.origin? holder = some origin) :
    host.isLocked? holder = some (decide (origin ∈ lineage.locked)) := by
  obtain ⟨window, hwindow, -, hlocked⟩ := h.window horigin
  have hstate : host.phases.isLocked ⟨origin⟩ = window.isLocked := by
    rw [Phases.isLocked, hwindow, Option.any_some]
  rw [isLocked?, h.observed?_eq, horigin, Option.map_some, Option.map_some, hstate,
    Bool.eq_iff_iff.mpr (hlocked.trans decide_eq_true_iff.symm)]

/-- A window that is open was not locked before. -/
theorem open_lifecycle (h : Told lineage host) {lifecycle : Nat} {phase : PhaseId}
    {window : Phase} (hlifecycle : host.lifecycles[lifecycle]? = some phase)
    (hphase : host.phases.get? phase = some window) (hopen : window.isLocked = false) :
    lifecycle ∉ lineage.locked ∧
      host.generation? (.lifecycle lifecycle) = some window.generation := by
  obtain ⟨rfl, hlt⟩ := h.lifecycle hlifecycle
  obtain ⟨hgeneration, hlocked⟩ := h.windows lifecycle window hphase
  refine ⟨fun hmem => ?_, ?_⟩
  · rw [hlocked.mpr hmem] at hopen
    cases hopen
  · rw [h.generation?_eq (Lineage.origin?_lifecycle hlt), hgeneration]

theorem closed_lifecycle (h : Told lineage host) {lifecycle : Nat} {phase : PhaseId}
    (hlifecycle : host.lifecycles[lifecycle]? = some phase)
    (hclosed : ∀ window, host.phases.get? phase = some window → window.isLocked = true) :
    lifecycle ∈ lineage.locked := by
  obtain ⟨rfl, hlt⟩ := h.lifecycle hlifecycle
  obtain ⟨window, hwindow, -, hlocked⟩ := h.window (Lineage.origin?_lifecycle hlt)
  exact hlocked.mp (hclosed window hwindow)

/-- A lock shows to nobody who stems from another opening. -/
theorem lock_apart (h : Told lineage host) {lifecycle : Nat} {later : Host α}
    (hlater : Told (lineage.after (.lock lifecycle : HostCall α)) later) {holder : Holder}
    (hother : lineage.origin? holder ≠ some lifecycle) :
    later.generation? holder = host.generation? holder ∧
      later.isLocked? holder = host.isLocked? holder := by
  have hsame : (lineage.after (.lock lifecycle : HostCall α)).origin? holder =
      lineage.origin? holder := by cases holder <;> rfl
  cases horigin : lineage.origin? holder with
  | none =>
    have hnone := h.observed?_eq holder
    have hlaterNone := hlater.observed?_eq holder
    rw [hsame] at hlaterNone
    rw [horigin, Option.map_none] at hnone hlaterNone
    simp only [generation?, isLocked?, hnone, hlaterNone, Option.map_none, and_self]
  | some origin =>
    have hne : origin ≠ lifecycle := fun heq => hother (heq ▸ horigin)
    rw [hlater.generation?_eq (hsame.trans horigin), h.generation?_eq horigin,
      hlater.isLocked?_eq (hsame.trans horigin), h.isLocked?_eq horigin]
    simp [Lineage.after, hne]

/-- There is an opening that a registry stems from. -/
theorem registry_origin (h : Told lineage host) {position : Nat} {registry : Registry α}
    (hregistry : host.registries[position]? = some registry) :
    ∃ origin, registry.phase = ⟨origin⟩ ∧ lineage.origin? (.registry position) = some origin := by
  have hobserved := h.observed?_eq (.registry position)
  rw [observed?, hregistry] at hobserved
  obtain ⟨origin, horigin, hphase⟩ := Option.map_eq_some_iff.mp hobserved.symm
  exact ⟨origin, hphase.symm, horigin⟩

end Told

/-- How the phases of a host gate its registries, told from the calls that led to it. -/
structure Gated (calls : List (HostCall α)) (host : Host α) : Prop where
  /-- A call can be made exactly if what it names exists. -/
  answered : ∀ call, (host.call? call).isSome = true ↔
    ∀ holder, call.named? = some holder → ((Lineage.of calls).origin? holder).isSome = true
  /-- Two holders share a phase exactly if they stem from the same opening. -/
  share_iff : ∀ first second, host.Share first second ↔
    ∃ origin, (Lineage.of calls).origin? first = some origin ∧
      (Lineage.of calls).origin? second = some origin
  alike : ∀ first second, host.Share first second →
    host.generation? first = host.generation? second ∧
      host.isLocked? first = host.isLocked? second
  /-- A lock shows to those that share the phase, and to nobody else. -/
  apart : ∀ lifecycle taken holder, host.call? (.lock lifecycle) = some taken →
    ¬host.Share holder (.lifecycle lifecycle) →
    taken.value.2.generation? holder = host.generation? holder ∧
      taken.value.2.isLocked? holder = host.isLocked? holder
  generation : ∀ holder origin, (Lineage.of calls).origin? holder = some origin →
    host.generation? holder = (Lineage.of calls).generations[origin]?
  /-- A holder is locked exactly if the lifecycle that it stems from was. -/
  locked_iff : ∀ holder origin, (Lineage.of calls).origin? holder = some origin →
    (host.isLocked? holder = some true ↔ .lock origin ∈ calls) ∧
      (host.isLocked? holder = some false ↔ .lock origin ∉ calls)
  firstLock : ∀ lifecycle taken, host.call? (.lock lifecycle) = some taken →
    .lock lifecycle ∉ calls →
    taken.value.1 = .flag true ∧
      ∃ generation, host.generation? (.lifecycle lifecycle) = some generation ∧
        taken.events = [.phaseLocked generation]
  laterLock : ∀ lifecycle taken, host.call? (.lock lifecycle) = some taken →
    .lock lifecycle ∈ calls → taken = { value := (.flag false, host) }
  /-- Nothing else reports a lock. -/
  silent : ∀ call taken generation, host.call? call = some taken →
    .phaseLocked generation ∈ taken.events →
    ∃ lifecycle, call = .lock lifecycle ∧ .lock lifecycle ∉ calls
  /-- A registry takes a binding exactly if it is not locked, and a refusal changes nothing. -/
  add : ∀ position binding taken, host.call? (.add position binding) = some taken →
    (taken.value.1 = .acknowledged ↔ host.isLocked? (.registry position) = some false) ∧
      (host.isLocked? (.registry position) ≠ some false →
        ∃ generation, host.generation? (.registry position) = some generation ∧
          taken.value = (.refused (.locked binding.contract generation), host))
  /-- A locked registry stays as it is until it is cleared, and is empty from then on. -/
  frozen : ∀ position registry, host.registries[position]? = some registry →
    host.isLocked? (.registry position) = some true →
    ∀ more later, host.run? more = some later →
      ∃ catalog, later.registries[position]? = some { registry with catalog := catalog } ∧
        (.clear position ∉ more → catalog = registry.catalog) ∧
        (.clear position ∈ more → catalog = .empty)

/-! ## A locked registry -/

section Frozen

variable {host : Host α} {position : Nat} {registry : Registry α}

/-- A call changes a locked registry only by clearing it. -/
theorem Takes.of_locked {call : HostCall α} {taken : Traced (HostReply × Host α)}
    (h : Takes host call taken) (hregistry : host.registries[position]? = some registry)
    (hlocked : host.phases.isLocked registry.phase = true) :
    (call = .clear position →
      taken.value.2.registries[position]? = some { registry with catalog := .empty }) ∧
      (call ≠ .clear position → taken.value.2.registries[position]? = some registry) := by
  have hlt : position < host.registries.length := (List.getElem?_eq_some_iff.mp hregistry).1
  cases h with
  | opened => simp [List.getElem?_append_left hlt, hregistry]
  | @added other found binding hfound hopen =>
    -- an open registry is another one
    have hne : other ≠ position := by
      rintro rfl
      rw [hregistry] at hfound
      cases hfound
      rw [hlocked] at hopen
      cases hopen
    simp [setRegistry, List.getElem?_set_ne hne, hregistry]
  | @cleared other found hfound =>
    by_cases hsame : other = position
    · subst hsame
      rw [hregistry] at hfound
      cases hfound
      simp [setRegistry, List.getElem?_set_self hlt]
    · simp [setRegistry, List.getElem?_set_ne hsame, hregistry, hsame]
  | started | startedNext | locked | relocked | issued | refused => simp [hregistry]

theorem Told.isLocked_registry {lineage : Lineage} (h : Told lineage host)
    (hregistry : host.registries[position]? = some registry) {origin : Nat}
    (horigin : lineage.origin? (.registry position) = some origin) :
    host.phases.isLocked registry.phase = decide (origin ∈ lineage.locked) := by
  have hlocked := h.isLocked?_eq horigin
  rw [isLocked?, observed?, hregistry] at hlocked
  exact Option.some.inj hlocked

/-- A registry that is locked stays as it is through any calls, but for being cleared. -/
theorem frozen_run {calls more : List (HostCall α)} {later : Host α}
    (hrun : ({} : Host α).run? calls = some host)
    (hregistry : host.registries[position]? = some registry)
    (hlocked : host.isLocked? (.registry position) = some true)
    (hmore : host.run? more = some later) :
    ∃ catalog, later.registries[position]? = some { registry with catalog := catalog } ∧
      (.clear position ∉ more → catalog = registry.catalog) ∧
      (.clear position ∈ more → catalog = .empty) := by
  have htold := Told.run hrun
  obtain ⟨origin, -, horigin⟩ := htold.registry_origin hregistry
  rw [htold.isLocked?_eq horigin, Option.some.injEq, decide_eq_true_iff] at hlocked
  -- the opening stays locked, since no call is ever taken back
  have hstill : ∀ {more : List (HostCall α)},
      origin ∈ (Lineage.of (calls ++ more)).locked ∧
        (Lineage.of (calls ++ more)).origin? (.registry position) = some origin := by
    intro more
    induction more using List.reverseRecOn with
    | nil => simpa using ⟨hlocked, horigin⟩
    | append_singleton more call ih =>
      rw [← List.append_assoc, Lineage.of_concat]
      refine ⟨?_, Lineage.origin?_after ih.2 call⟩
      cases call with
      | lock => exact List.mem_append_left _ ih.1
      | _ => exact ih.1
  refine run?_induction (motive := fun more later => ∃ catalog,
    later.registries[position]? = some { registry with catalog := catalog } ∧
      (.clear position ∉ more → catalog = registry.catalog) ∧
      (.clear position ∈ more → catalog = .empty)) ?_ ?_ hmore
  · exact ⟨registry.catalog, hregistry, fun _ => rfl, fun hmem => by cases hmem⟩
  · rintro more before call taken hbefore hcall ⟨catalog, hnow, hkept, hempty⟩
    have hreached := Told.run (run?_append.mpr ⟨host, hrun, hbefore⟩)
    have hshut := hreached.isLocked_registry hnow hstill.2
    rw [decide_eq_true hstill.1] at hshut
    obtain ⟨hclear, hother⟩ := (takes_of_call? hcall).of_locked hnow hshut
    by_cases hcleared : call = .clear position
    · exact ⟨.empty, hclear hcleared, by simp [hcleared], fun _ => rfl⟩
    · exact ⟨catalog, hother hcleared, by simpa [Ne.symm hcleared] using hkept,
        by simpa [Ne.symm hcleared] using hempty⟩

end Frozen

/-! ## Every host that is reached -/

/-- Phases gate and isolate in every host that calls lead to. -/
theorem phases_gate {calls : List (HostCall α)} {host : Host α}
    (hrun : ({} : Host α).run? calls = some host) : Gated calls host := by
  have htold := Told.run hrun
  constructor
  case answered =>
    intro call
    simp only [isSome_call?, htold.observed?_eq, Option.isSome_map]
  case share_iff => exact htold.share_iff
  case alike =>
    rintro first second ⟨phase, hfirst, hsecond⟩
    simp only [generation?, isLocked?, hfirst, hsecond, and_self]
  case apart =>
    intro lifecycle taken holder hcall hshare
    have htakes := takes_of_call? hcall
    have hlifecycle : ∃ phase, host.lifecycles[lifecycle]? = some phase := by
      cases htakes with
      | locked hlifecycle => exact ⟨_, hlifecycle⟩
      | relocked hlifecycle => exact ⟨_, hlifecycle⟩
    obtain ⟨phase, hphase⟩ := hlifecycle
    refine htold.lock_apart (htold.step htakes) fun horigin => hshare ?_
    exact (htold.share_iff ..).mpr ⟨lifecycle, horigin, if_pos (htold.lifecycle hphase).2⟩
  case generation => exact fun _ _ horigin => htold.generation?_eq horigin
  case locked_iff =>
    intro holder origin horigin
    simp [htold.isLocked?_eq horigin, Lineage.mem_locked]
  case firstLock =>
    intro lifecycle taken hcall hnew
    cases takes_of_call? hcall with
    | locked hlifecycle hphase hopen =>
      exact ⟨rfl, _, (htold.open_lifecycle hlifecycle hphase hopen).2, rfl⟩
    | relocked hlifecycle hclosed =>
      exact absurd (Lineage.mem_locked.mp (htold.closed_lifecycle hlifecycle hclosed)) hnew
  case laterLock =>
    intro lifecycle taken hcall hold
    cases takes_of_call? hcall with
    | locked hlifecycle hphase hopen =>
      have hnew := (htold.open_lifecycle hlifecycle hphase hopen).1
      exact absurd (Lineage.mem_locked.mpr hold) hnew
    | relocked hlifecycle hclosed => rfl
  case silent =>
    intro call taken generation hcall hreported
    cases takes_of_call? hcall with
    | @locked lifecycle _ _ hlifecycle hphase hopen =>
      have hnew := (htold.open_lifecycle hlifecycle hphase hopen).1
      exact ⟨lifecycle, rfl, mt Lineage.mem_locked.mpr hnew⟩
    | _ => simp at hreported
  case add =>
    intro position binding taken hcall
    cases takes_of_call? hcall with
    | added binding hregistry hopen => simp [isLocked?, observed?, hregistry, hopen]
    | refused binding hregistry hlocked =>
      simp [isLocked?, generation?, observed?, hregistry, hlocked]
  case frozen =>
    exact fun _ _ hregistry hlocked _ _ hmore => frozen_run hrun hregistry hlocked hmore

/-- Two lifecycles of the same generation, and one of the next. The first is locked twice, and
registries that stem from it were opened by way of the lifecycle and of its token. -/
def twinCalls : List (HostCall Nat) :=
  [.startLifecycle, .startLifecycle, .issueToken 0, .openRegistry (.lifecycle 0),
    .openRegistry (.token 0), .openRegistry (.lifecycle 1), .add 0 ⟨"clock", .any, 1⟩, .lock 0,
    .add 1 ⟨"clock", .any, 2⟩, .add 2 ⟨"clock", .any, 3⟩, .startNext 0, .lock 0,
    .openRegistry (.lifecycle 2), .add 3 ⟨"clock", .any, 4⟩, .clear 0, .add 0 ⟨"clock", .any, 5⟩]

theorem phases_gate_twins :
    ∃ host, ({} : Host Nat).run? twinCalls = some host ∧
      host.generation? (.lifecycle 0) = host.generation? (.lifecycle 1) ∧
      host.isLocked? (.registry 1) = some true ∧ host.isLocked? (.registry 2) = some false ∧
      host.registries.map (·.catalog.size) = [0, 0, 1, 1] ∧
      Gated twinCalls host :=
  ⟨_, rfl, rfl, rfl, rfl, rfl, phases_gate rfl⟩

end Host

end PluginHost
