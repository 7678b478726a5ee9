import PluginHost.Proofs.Host.Calls

/-!
# Where the holders of a host stem from

Every phase is opened together with one lifecycle, and tokens and registries take theirs over from a
holder that is there already. So it can be told from the calls alone which opening a holder stems
from, which generation that is, and whether it was locked. `Told` says that a host agrees: a holder
observes the phase of its opening and no other.
-/
namespace PluginHost.Host

variable {α : Type}

/-- The openings that the holders of a host stem from. An opening makes one lifecycle, and the
number of that lifecycle is its name. -/
structure Lineage where
  /-- The generation of each opening. -/
  generations : List UInt64 := []
  /-- The opening that each token stems from. -/
  tokens : List Nat := []
  /-- The opening that each registry stems from. -/
  registries : List Nat := []
  /-- The openings that were locked, once for each call. -/
  locked : List Nat := []

namespace Lineage

/-- The opening that a holder stems from, if there is such a holder. -/
def origin? (lineage : Lineage) : Holder → Option Nat
  | .lifecycle position => if position < lineage.generations.length then some position else none
  | .token position => lineage.tokens[position]?
  | .registry position => lineage.registries[position]?

theorem origin?_lifecycle {lineage : Lineage} {position : Nat}
    (h : position < lineage.generations.length) :
    lineage.origin? (.lifecycle position) = some position :=
  if_pos h

/-- What a call adds. A first phase is of generation one, and the next one of the generation after
that. -/
def after (lineage : Lineage) : HostCall α → Lineage
  | .startLifecycle => { lineage with generations := lineage.generations ++ [1] }
  | .startNext lifecycle =>
    { lineage with
      generations :=
        lineage.generations ++ (lineage.generations[lifecycle]?.map (· + 1)).toList }
  | .lock lifecycle => { lineage with locked := lineage.locked ++ [lifecycle] }
  | .issueToken lifecycle => { lineage with tokens := lineage.tokens ++ [lifecycle] }
  | .openRegistry source =>
    { lineage with
      registries := lineage.registries ++ (lineage.origin? source.toHolder).toList }
  | .add .. | .clear _ => lineage

/-- The lineage of the holders that a run of calls made. -/
def of (calls : List (HostCall α)) : Lineage := calls.foldl after {}

theorem of_concat (calls : List (HostCall α)) (call : HostCall α) :
    of (calls ++ [call]) = (of calls).after call := List.foldl_append ..

theorem mem_locked {calls : List (HostCall α)} {opening : Nat} :
    opening ∈ (of calls).locked ↔ .lock opening ∈ calls := by
  induction calls using List.reverseRecOn with
  | nil => simp [of]
  | append_singleton calls call ih => cases call <;> simp [of_concat, after, ih]

/-- A holder never comes to stem from another opening. -/
theorem origin?_after {lineage : Lineage} {holder : Holder} {origin : Nat}
    (h : lineage.origin? holder = some origin) (call : HostCall α) :
    (lineage.after call).origin? holder = some origin := by
  have hlist {list : List Nat} {position : Nat} (hold : list[position]? = some origin)
      (new : List Nat) : (list ++ new)[position]? = some origin := by
    rw [List.getElem?_append_left (List.getElem?_eq_some_iff.mp hold).1, hold]
  have hopening {position : Nat} (new : List UInt64)
      (hold : (if position < lineage.generations.length then some position else none) =
        some origin) :
      (if position < (lineage.generations ++ new).length then some position else none) =
        some origin := by
    split at hold
    · rw [if_pos (by rw [List.length_append]; omega), hold]
    · cases hold
  cases holder with
  | lifecycle position =>
    cases call with
    | startLifecycle => exact hopening _ h
    | startNext lifecycle => exact hopening _ h
    | lock _ | issueToken _ | openRegistry _ | add _ _ | clear _ => exact h
  | token position =>
    cases call with
    | issueToken lifecycle => exact hlist h _
    | startLifecycle | startNext _ | lock _ | openRegistry _ | add _ _ | clear _ => exact h
  | registry position =>
    cases call with
    | openRegistry source => exact hlist h _
    | startLifecycle | startNext _ | lock _ | issueToken _ | add _ _ | clear _ => exact h

end Lineage

/-- A host is as its lineage tells. -/
structure Told (lineage : Lineage) (host : Host α) : Prop where
  lifecycles : host.lifecycles = (List.range lineage.generations.length).map PhaseId.mk
  tokens : host.tokens = lineage.tokens.map PhaseId.mk
  registries : host.registries.map (·.phase) = lineage.registries.map PhaseId.mk
  /-- No token and no registry stems from an opening that is still to come. -/
  known : ∀ origin ∈ lineage.tokens ++ lineage.registries, origin < lineage.generations.length
  length : host.phases.opened.length = lineage.generations.length
  windows : ∀ index window, host.phases.opened[index]? = some window →
    lineage.generations[index]? = some window.generation ∧
      (window.isLocked = true ↔ index ∈ lineage.locked)
  /-- Nothing was locked before it was opened. -/
  locked : ∀ index ∈ lineage.locked, index < lineage.generations.length

namespace Told

variable {lineage : Lineage} {host : Host α}

theorem start : Told {} ({} : Host α) where
  lifecycles := rfl
  tokens := rfl
  registries := rfl
  known := fun _ h => by cases h
  length := rfl
  windows := fun _ _ h => by cases h
  locked := fun _ h => by cases h

/-- A holder observes the phase of the opening that it stems from. -/
theorem observed?_eq (h : Told lineage host) (holder : Holder) :
    host.observed? holder = (lineage.origin? holder).map PhaseId.mk := by
  cases holder with
  | lifecycle position =>
    rw [observed?, h.lifecycles, List.getElem?_map, Lineage.origin?]
    split
    · rename_i hlt
      rw [List.getElem?_range hlt]
    · rename_i hge
      rw [List.getElem?_eq_none (by rw [List.length_range]; omega)]
  | token position => rw [observed?, h.tokens, List.getElem?_map, Lineage.origin?]
  | registry position =>
    rw [observed?, ← List.getElem?_map, h.registries, List.getElem?_map, Lineage.origin?]

theorem origin_lt (h : Told lineage host) {holder : Holder} {origin : Nat}
    (horigin : lineage.origin? holder = some origin) : origin < lineage.generations.length := by
  cases holder with
  | lifecycle position =>
    rw [Lineage.origin?] at horigin
    split at horigin
    · rename_i hlt
      exact Option.some.inj horigin ▸ hlt
    · cases horigin
  | token position => exact h.known origin (List.mem_append_left _ (List.mem_of_getElem? horigin))
  | registry position =>
    exact h.known origin (List.mem_append_right _ (List.mem_of_getElem? horigin))

/-- What a holder sees of the phase of its opening. -/
theorem window (h : Told lineage host) {holder : Holder} {origin : Nat}
    (horigin : lineage.origin? holder = some origin) :
    ∃ window, host.phases.get? ⟨origin⟩ = some window ∧
      lineage.generations[origin]? = some window.generation ∧
      (window.isLocked = true ↔ origin ∈ lineage.locked) := by
  have hlt : origin < host.phases.opened.length := h.length ▸ h.origin_lt horigin
  have hget := List.getElem?_eq_getElem hlt
  exact ⟨_, hget, h.windows origin _ hget⟩

/-- A lifecycle is the one that its opening made. -/
theorem lifecycle (h : Told lineage host) {position : Nat} {phase : PhaseId}
    (hlifecycle : host.lifecycles[position]? = some phase) :
    phase = ⟨position⟩ ∧ position < lineage.generations.length := by
  have hobserved := h.observed?_eq (.lifecycle position)
  rw [observed?, hlifecycle, Lineage.origin?] at hobserved
  split at hobserved
  · rename_i hlt
    exact ⟨Option.some.inj hobserved, hlt⟩
  · cases hobserved

/-! ### Each call keeps a host as told -/

/-- One more opening, which is of this generation. -/
theorem opened (h : Told lineage host) (generation : UInt64) :
    Told { lineage with generations := lineage.generations ++ [generation] }
      { host with
        phases := ⟨host.phases.opened ++ [⟨generation, false⟩]⟩
        lifecycles := host.lifecycles ++ [⟨host.phases.opened.length⟩] } where
  lifecycles := by
    simp [h.lifecycles, h.length, List.range_succ]
  tokens := h.tokens
  registries := h.registries
  known := fun origin horigin => by
    have hlt := h.known origin horigin
    simp only [List.length_append, List.length_singleton]
    omega
  length := by simp [h.length]
  windows := fun index window hwindow => by
    rcases Nat.lt_or_ge index host.phases.opened.length with hlt | hge
    · rw [List.getElem?_append_left hlt] at hwindow
      rw [List.getElem?_append_left (h.length ▸ hlt)]
      exact h.windows index window hwindow
    -- the new opening is not locked yet, since it could not be named before
    · have hnew : index ∉ lineage.locked := fun hmem => by
        have hlt := h.locked index hmem
        have hlength := h.length
        omega
      rw [List.getElem?_append_right hge] at hwindow
      rw [List.getElem?_append_right (h.length ▸ hge), ← h.length]
      rw [List.getElem?_singleton] at hwindow ⊢
      split at hwindow
      · rename_i hindex
        cases hwindow
        simp [hindex, hnew]
      · cases hwindow
  locked := fun index hindex => by
    have hlt := h.locked index hindex
    simp only [List.length_append, List.length_singleton]
    omega

/-- A lock closes the window of the opening that was named, and leaves the others as they are. -/
theorem locks (h : Told lineage host) {opening : Nat}
    (hopening : opening < lineage.generations.length) {windows : List Phase}
    (hself : ∀ window, windows[opening]? = some window →
      window.isLocked = true ∧ lineage.generations[opening]? = some window.generation)
    (hother : ∀ index, index ≠ opening → windows[index]? = host.phases.opened[index]?)
    (hlength : windows.length = host.phases.opened.length) :
    Told { lineage with locked := lineage.locked ++ [opening] }
      { host with phases := ⟨windows⟩ } where
  lifecycles := h.lifecycles
  tokens := h.tokens
  registries := h.registries
  known := h.known
  length := hlength.trans h.length
  windows := fun index window hwindow => by
    by_cases hsame : index = opening
    · subst hsame
      obtain ⟨hlocked, hgeneration⟩ := hself window hwindow
      exact ⟨hgeneration, by simp [hlocked]⟩
    · rw [hother index hsame] at hwindow
      obtain ⟨hgeneration, hlocked⟩ := h.windows index window hwindow
      exact ⟨hgeneration, by simp [hlocked, hsame]⟩
  locked := fun index hindex => by
    rcases List.mem_append.mp hindex with hindex | hindex
    · exact h.locked index hindex
    · exact List.mem_singleton.mp hindex ▸ hopening

/-- The registry at a position is exchanged for one that observes the same phase. -/
theorem setRegistry (h : Told lineage host) {position : Nat} {registry : Registry α}
    (hregistry : host.registries[position]? = some registry) (catalog : Catalog α) :
    Told lineage (host.setRegistry position { registry with catalog := catalog }) := by
  have hphases : (host.registries.set position { registry with catalog := catalog }).map (·.phase) =
      host.registries.map (·.phase) := by
    obtain ⟨hlt, rfl⟩ := List.getElem?_eq_some_iff.mp hregistry
    rw [List.map_set]
    refine List.ext_getElem? fun index => ?_
    by_cases hsame : position = index
    · subst hsame
      simp [hlt]
    · rw [List.getElem?_set_ne hsame]
  exact { h with registries := hphases.trans h.registries }

theorem step (h : Told lineage host) {call : HostCall α} {taken : Traced (HostReply × Host α)}
    (htakes : Takes host call taken) : Told (lineage.after call) taken.value.2 := by
  cases htakes with
  | started => exact h.opened 1
  | @startedNext lifecycle previous hlifecycle =>
    obtain ⟨rfl, hlt⟩ := h.lifecycle hlifecycle
    obtain ⟨window, hwindow, hgeneration, -⟩ := h.window (Lineage.origin?_lifecycle hlt)
    have hnext : host.phases.generation ⟨lifecycle⟩ = window.generation := by
      rw [Phases.generation, hwindow]
      rfl
    have hopened := h.opened (window.generation + 1)
    simpa only [Lineage.after, hgeneration, hnext, Option.map_some, Option.toList_some]
      using hopened
  | @locked lifecycle phase window hlifecycle hphase =>
    obtain ⟨rfl, hlt⟩ := h.lifecycle hlifecycle
    have hopened : lifecycle < host.phases.opened.length := h.length ▸ hlt
    refine h.locks hlt (fun closed hclosed => ?_) (fun index hne => ?_) List.length_set
    · rw [List.getElem?_set_self hopened] at hclosed
      cases hclosed
      exact ⟨rfl, (h.windows lifecycle window hphase).1⟩
    · exact List.getElem?_set_ne (Ne.symm hne)
  | @relocked lifecycle phase hlifecycle hclosed =>
    obtain ⟨rfl, hlt⟩ := h.lifecycle hlifecycle
    exact h.locks hlt
      (fun window hwindow => ⟨hclosed window hwindow, (h.windows lifecycle window hwindow).1⟩)
      (fun _ _ => rfl) rfl
  | @issued lifecycle phase hlifecycle =>
    obtain ⟨rfl, hlt⟩ := h.lifecycle hlifecycle
    refine { h with tokens := by simp [h.tokens, Lineage.after], known := fun origin horigin => ?_ }
    simp only [Lineage.after, List.append_assoc, List.mem_append, List.mem_singleton] at horigin
    rcases horigin with horigin | rfl | horigin
    · exact h.known origin (List.mem_append_left _ horigin)
    · exact hlt
    · exact h.known origin (List.mem_append_right _ horigin)
  | @opened source phase hsource =>
    rw [h.observed?_eq] at hsource
    obtain ⟨origin, horigin, rfl⟩ := Option.map_eq_some_iff.mp hsource
    refine { h with
      registries := by simp [h.registries, Lineage.after, horigin]
      known := fun other hother => ?_ }
    simp only [Lineage.after, horigin, Option.toList_some, ← List.append_assoc,
      List.mem_append (t := [origin]), List.mem_singleton] at hother
    rcases hother with hother | rfl
    · exact h.known other hother
    · exact h.origin_lt horigin
  | added binding hregistry => exact h.setRegistry hregistry _
  | refused => exact h
  | cleared hregistry => exact h.setRegistry hregistry _

/-- Every host that is reached is as its calls tell. -/
theorem run {calls : List (HostCall α)} {host : Host α}
    (hrun : ({} : Host α).run? calls = some host) : Told (Lineage.of calls) host := by
  refine run?_induction (motive := fun calls host => Told (Lineage.of calls) host) .start ?_ hrun
  intro calls before call taken _ hcall hbefore
  rw [Lineage.of_concat]
  exact hbefore.step (takes_of_call? hcall)

end Told

end PluginHost.Host
