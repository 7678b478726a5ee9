import PluginHost.Manifest.Registration
import PluginHost.Proofs.Contract.Grouping

/-!
# What registering a manifest does

A registration either fails at the first name of the manifest that stands for no set, before it
does anything, or it goes on up to the first call of the maker after which the phase of the registry
is locked. The calls that would be made if nothing stopped them are written down first, as the
course of the maker. What a registration does is a beginning of that course.
-/
namespace PluginHost

/-! ## Phases that are locked in turn -/

theorem Phases.generation_lock (phases : Phases) (id other : PhaseId) :
    (phases.lock id).value.2.generation other = phases.generation other := by
  cases hphase : phases.get? id with
  | none => simp only [lock, hphase, Traced.value_pure]
  | some phase =>
    cases hlocked : phase.isLocked with
    | true => simp [lock, hphase, hlocked]
    | false =>
      have hvalue : (phases.lock id).value.2 =
          ⟨phases.opened.set id.index { phase with isLocked := true }⟩ := by
        simp only [lock, hphase, hlocked]
        rfl
      by_cases hsame : id.index = other.index
      · have hother : phases.opened[other.index]? = some phase := hsame ▸ hphase
        obtain ⟨hlt, hopened⟩ := List.getElem?_eq_some_iff.mp hother
        simp [hvalue, generation, get?, hsame, hopened, hlt]
      · simp [hvalue, generation, get?, List.getElem?_set_ne hsame]

theorem Manifest.generation_lockAll (ids : List PhaseId) (phases : Phases) (other : PhaseId) :
    (lockAll ids phases).value.generation other = phases.generation other := by
  induction ids generalizing phases with
  | nil => rfl
  | cons id ids ih => rw [lockAll, Traced.value_bind, ih, Phases.generation_lock]

/-! ## What profile names stand for -/

namespace ProfileSet

theorem union_assoc (a b c : ProfileSet) : a ∪ b ∪ c = a ∪ (b ∪ c) :=
  congrArg mk (UInt32.or_assoc ..)

theorem union_any (a : ProfileSet) : a ∪ any = a := congrArg mk UInt32.or_zero

theorem any_union (a : ProfileSet) : any ∪ a = a := congrArg mk UInt32.zero_or

end ProfileSet

/-- The profile names that a requirement spells out, in order. -/
def ProfileSpec.spelled : ProfileSpec → List String
  | .mask _ => []
  | .names spelled => spelled

namespace Manifest

variable {α : Type}

/-- The profile names that the entries of a manifest spell out, in order of the entries. -/
def spelled (manifest : Manifest) : List String :=
  manifest.bindings.flatMap (·.profiles.spelled)

/-- Why a name stands for no set, if it stands for none. -/
def profileError? (manifest : Manifest) (name : String) : Option ProfileError :=
  match manifest.profile name with
  | .ok _ => none
  | .error error => some error

section Resolution

variable (manifest : Manifest)

/-- Every one of the names stands for a set. -/
def Resolves (names : List String) : Prop :=
  ∀ name ∈ names, ∃ set, manifest.profile name = .ok set

/-- The set that a name stands for, if it stands for one. -/
def meaning (name : String) : ProfileSet := (manifest.profile name).toOption.getD .any

/-- The union of what the names stand for. -/
def unionOf (names : List String) : ProfileSet :=
  names.foldr (fun name union => manifest.meaning name ∪ union) .any

@[simp] theorem unionOf_nil : manifest.unionOf [] = .any := rfl

@[simp] theorem unionOf_cons (name : String) (names : List String) :
    manifest.unionOf (name :: names) = manifest.meaning name ∪ manifest.unionOf names := rfl

/-- The set that is required. -/
def requirement : ProfileSpec → ProfileSet
  | .mask bits => ⟨bits⟩
  | .names names => manifest.unionOf names

theorem resolves_iff {names : List String} :
    manifest.Resolves names ↔ names.findSome? manifest.profileError? = none := by
  rw [List.findSome?_eq_none_iff]
  refine forall₂_congr fun name _ => ?_
  cases hname : manifest.profile name <;> simp [profileError?, hname]

theorem addProfiles_eq {names : List String} (h : manifest.Resolves names) (set : ProfileSet) :
    manifest.addProfiles set names = .ok (set ∪ manifest.unionOf names) := by
  induction names generalizing set with
  | nil => rw [addProfiles, unionOf_nil, ProfileSet.union_any]
  | cons name names ih =>
    obtain ⟨⟨found, hfound⟩, hnames⟩ := List.forall_mem_cons.mp h
    have hmeaning : manifest.meaning name = found := by
      rw [meaning, hfound]
      rfl
    calc manifest.addProfiles set (name :: names)
      _ = manifest.addProfiles (set ∪ found) names := by
        rw [addProfiles, hfound]
        rfl
      _ = .ok (set ∪ found ∪ manifest.unionOf names) := ih hnames _
      _ = .ok (set ∪ manifest.unionOf (name :: names)) := by
        rw [ProfileSet.union_assoc, unionOf_cons, hmeaning]

theorem profileSet_eq {names : List String} (h : manifest.Resolves names) :
    manifest.profileSet names = .ok (manifest.unionOf names) := by
  rw [profileSet, manifest.addProfiles_eq h, ProfileSet.any_union]

theorem required_eq {spec : ProfileSpec} (h : manifest.Resolves spec.spelled) :
    manifest.required spec = .ok (manifest.requirement spec) := by
  cases spec with
  | mask bits => rfl
  | names names => exact manifest.profileSet_eq h

theorem resolvedEntries_eq {entries : List BindingEntry}
    (h : manifest.Resolves (entries.flatMap (·.profiles.spelled))) :
    manifest.resolvedEntries entries =
      .ok (entries.map fun entry => (entry, manifest.requirement entry.profiles)) := by
  induction entries with
  | nil => rfl
  | cons entry entries ih =>
    rw [List.flatMap_cons] at h
    obtain ⟨hentry, hentries⟩ := List.forall_mem_append.mp h
    rw [resolvedEntries, manifest.required_eq hentry, ih hentries]
    rfl

theorem addProfiles_of_error {names : List String} {error : ProfileError}
    (h : names.findSome? manifest.profileError? = some error) (set : ProfileSet) :
    manifest.addProfiles set names = .error error := by
  induction names generalizing set with
  | nil => cases h
  | cons name names ih =>
    cases hname : manifest.profile name with
    | error first =>
      have hfirst : first = error := by simpa [profileError?, hname] using h
      rw [addProfiles, hname, hfirst]
      rfl
    | ok found =>
      have hrest : names.findSome? manifest.profileError? = some error := by
        simpa [profileError?, hname] using h
      rw [addProfiles, hname]
      exact ih hrest _

theorem required_of_error {spec : ProfileSpec} {error : ProfileError}
    (h : spec.spelled.findSome? manifest.profileError? = some error) :
    manifest.required spec = .error error := by
  cases spec with
  | mask bits => cases h
  | names names => exact manifest.addProfiles_of_error h .any

theorem resolvedEntries_of_error {entries : List BindingEntry} {error : ProfileError}
    (h : (entries.flatMap (·.profiles.spelled)).findSome? manifest.profileError? = some error) :
    manifest.resolvedEntries entries = .error error := by
  induction entries with
  | nil => cases h
  | cons entry entries ih =>
    rw [List.flatMap_cons, List.findSome?_append] at h
    cases hentry : entry.profiles.spelled.findSome? manifest.profileError? with
    | some first =>
      have hfirst : first = error := by simpa [hentry] using h
      rw [resolvedEntries, manifest.required_of_error hentry, hfirst]
      rfl
    | none =>
      rw [resolvedEntries, manifest.required_eq (manifest.resolves_iff.mpr hentry),
        ih (by simpa [hentry] using h)]
      rfl

theorem resolvedEntries_of_none {entries : List BindingEntry}
    (h : (entries.flatMap (·.profiles.spelled)).findSome? manifest.profileError? = none) :
    ∃ resolved, manifest.resolvedEntries entries = .ok resolved ∧ resolved.map (·.1) = entries ∧
      ∀ item ∈ resolved, manifest.required item.1.profiles = .ok item.2 := by
  have hresolves := manifest.resolves_iff.mpr h
  have hentries : (entries.map fun entry =>
      (entry, manifest.requirement entry.profiles)).map (·.1) = entries := by
    rw [List.map_map]
    exact List.map_id entries
  refine ⟨_, manifest.resolvedEntries_eq hresolves, hentries, fun item hitem => ?_⟩
  obtain ⟨entry, hentry, rfl⟩ := List.mem_map.mp hitem
  exact manifest.required_eq fun name hname =>
    hresolves name (List.mem_flatMap.mpr ⟨entry, hentry, hname⟩)

end Resolution

/-! ## The course of a maker -/

/-- One call of a maker. -/
structure MakerCall (α : Type) where
  entry : BindingEntry
  /-- The set that the entry requires. -/
  required : ProfileSet
  /-- The phases as the maker finds them. -/
  found : Phases
  product : Made α
  /-- The phases as the maker leaves them. -/
  left : Phases

/-- The binding that is offered after a call. -/
def MakerCall.binding (call : MakerCall α) : Binding α :=
  ⟨call.entry.contract, call.required, call.product.implementation⟩

/-- The calls that a maker gets for all entries, if nothing stops them. -/
def course (make : Maker α) (made : Nat) :
    List (BindingEntry × ProfileSet) → Phases → List (MakerCall α)
  | [], _ => []
  | (entry, required) :: entries, phases =>
    let product := make made entry phases
    let left := (lockAll product.locked phases).value
    ⟨entry, required, phases, product, left⟩ :: course make (made + 1) entries left

theorem length_course (make : Maker α) (made : Nat) (entries : List (BindingEntry × ProfileSet))
    (phases : Phases) : (course make made entries phases).length = entries.length := by
  induction entries generalizing made phases with
  | nil => rfl
  | cons item entries ih => exact congrArg (· + 1) (ih ..)

/-- The number of calls of a course after which the phase of a registry is still open, counted up to
the first after which it is locked. -/
def openCalls (registry : Registry α) (calls : List (MakerCall α)) : Nat :=
  calls.findIdx fun call => registry.isLocked call.left

/-- What a registration comes to that takes this course, from these phases and with `made`
implementations made before. -/
def outcome (made : Nat) (registry : Registry α) (phases : Phases) (calls : List (MakerCall α)) :
    Registration α :=
  let taken := openCalls registry calls
  { result :=
      match calls[taken]? with
      | none => .ok (made + calls.length)
      | some refused =>
        .error (.registry (.locked refused.entry.contract (phases.generation registry.phase)))
    made := made + min (taken + 1) calls.length
    registry :=
      { registry with
        catalog := registry.catalog.insertAll ((calls.take taken).map MakerCall.binding) }
    phases := ((calls.take (taken + 1)).getLast?.map (·.left)).getD phases }

section Outcome

variable {registry : Registry α} {phases : Phases} {call : MakerCall α}

theorem outcome_cons_locked (made : Nat) (calls : List (MakerCall α))
    (hlocked : registry.isLocked call.left = true) :
    outcome made registry phases (call :: calls) =
      ⟨.error (.registry (.locked call.entry.contract (phases.generation registry.phase))),
        made + 1, registry, call.left⟩ := by
  simp [outcome, openCalls, List.findIdx_cons, hlocked]

theorem outcome_cons_open (made : Nat) (calls : List (MakerCall α))
    (hopen : registry.isLocked call.left = false)
    (hgeneration : call.left.generation registry.phase = phases.generation registry.phase) :
    outcome made registry phases (call :: calls) =
      outcome (made + 1) { registry with catalog := registry.catalog.insert call.binding } call.left
        calls := by
  have htaken : openCalls registry (call :: calls) = openCalls registry calls + 1 := by
    simp [openCalls, List.findIdx_cons, hopen]
  have hsame : openCalls { registry with catalog := registry.catalog.insert call.binding } calls =
      openCalls registry calls := rfl
  have hleft : ∀ taken : List (MakerCall α), ((call :: taken).getLast?.map (·.left)).getD phases =
      (taken.getLast?.map (·.left)).getD call.left := fun taken => by
    cases hlast : taken.getLast? <;> simp [List.getLast?_cons, hlast]
  have hmade : made + min (openCalls registry calls + 1 + 1) (calls.length + 1) =
      made + 1 + min (openCalls registry calls + 1) calls.length := by omega
  have hcount : made + (calls.length + 1) = made + 1 + calls.length := by omega
  simp only [outcome, htaken, hsame, hleft, hgeneration, hmade, hcount, List.getElem?_cons_succ,
    List.take_succ_cons, List.map_cons, Catalog.insertAll_cons, List.length_cons]

end Outcome

/-- One entry with the phases as its call leaves them and what the registry answers. -/
theorem registerEntries_cons (make : Maker α) (made : Nat) (entry : BindingEntry)
    (required : ProfileSet) (entries : List (BindingEntry × ProfileSet)) (registry : Registry α)
    (phases : Phases) :
    registerEntries make made ((entry, required) :: entries) registry phases =
      let product := make made entry phases
      let left := lockAll product.locked phases
      let answer := registry.add left.value ⟨entry.contract, required, product.implementation⟩
      let rest : Traced (Registration α) :=
        match answer.value with
        | .error error => pure ⟨.error (.registry error), made + 1, registry, left.value⟩
        | .ok filled => registerEntries make (made + 1) entries filled left.value
      { value := rest.value, events := left.events ++ (answer.events ++ rest.events) } :=
  rfl

theorem add_of_locked {registry : Registry α} {phases : Phases}
    (hlocked : registry.isLocked phases = true) (binding : Binding α) :
    (registry.add phases binding).value =
      .error (.locked binding.contract (phases.generation registry.phase)) := by
  simp [Registry.add, hlocked]

theorem add_of_open {registry : Registry α} {phases : Phases}
    (hopen : registry.isLocked phases = false) (binding : Binding α) :
    (registry.add phases binding).value =
      .ok { registry with catalog := registry.catalog.insert binding } := by
  simp [Registry.add, hopen]

theorem registerEntries_eq_outcome (make : Maker α) (made : Nat)
    (entries : List (BindingEntry × ProfileSet)) (registry : Registry α) (phases : Phases) :
    (registerEntries make made entries registry phases).value =
      outcome made registry phases (course make made entries phases) := by
  induction entries generalizing made registry phases with
  | nil => rfl
  | cons item entries ih =>
    obtain ⟨entry, required⟩ := item
    have hgeneration := generation_lockAll (make made entry phases).locked phases registry.phase
    cases hlocked : registry.isLocked (lockAll (make made entry phases).locked phases).value with
    | true =>
      rw [course, outcome_cons_locked made _ hlocked]
      simp [registerEntries_cons, add_of_locked hlocked, hgeneration]
    | false =>
      rw [course, outcome_cons_open made _ hlocked hgeneration, ← ih]
      simp [registerEntries_cons, add_of_open hlocked, MakerCall.binding]

/-- Nothing depends on what a maker would make after the call that ends the course. -/
theorem registerEntries_congr {make other : Maker α} (made : Nat)
    (entries : List (BindingEntry × ProfileSet)) (registry : Registry α) (phases : Phases)
    (h : ∀ i call, i ≤ openCalls registry (course make made entries phases) →
      (course make made entries phases)[i]? = some call →
        other (made + i) call.entry call.found = call.product) :
    registerEntries other made entries registry phases =
      registerEntries make made entries registry phases := by
  induction entries generalizing made registry phases with
  | nil => rfl
  | cons item entries ih =>
    obtain ⟨entry, required⟩ := item
    have hfirst : other made entry phases = make made entry phases :=
      h 0 _ (Nat.zero_le _) (by rw [course]; rfl)
    cases hlocked : registry.isLocked (lockAll (make made entry phases).locked phases).value with
    | true => simp only [registerEntries_cons, hfirst, add_of_locked hlocked]
    | false =>
      simp only [registerEntries_cons, hfirst, add_of_open hlocked]
      rw [ih]
      intro i call hi hcall
      have hlater := h (i + 1) call
      simp only [course, openCalls, List.findIdx_cons, hlocked, List.getElem?_cons_succ] at hlater
      rw [Nat.add_right_comm, Nat.add_assoc]
      exact hlater (Nat.succ_le_succ hi) hcall

/-! ## The outcome -/

/-- A registration along these calls of a maker. It ends with the first call after which the phase
of the registry is locked, or with the last. -/
structure Follows (calls : List (MakerCall α)) (registry : Registry α) (phases : Phases)
    (outcome : Registration α) : Prop where
  made : outcome.made = min (openCalls registry calls + 1) calls.length
  /-- What was made while the phase was open is appended, in the order of the calls. -/
  appended : outcome.registry =
    { registry with
      catalog := registry.catalog.insertAll
        ((calls.take (openCalls registry calls)).map MakerCall.binding) }
  candidates : ∀ contract, outcome.registry.catalog.candidates contract =
    registry.catalog.candidates contract ++
      ((calls.take (openCalls registry calls)).map MakerCall.binding).filter
        (·.contract = contract)
  contracts : outcome.registry.catalog.contracts = registry.catalog.contracts ++
    ((((calls.take (openCalls registry calls)).map MakerCall.binding).map (·.contract)).filter
      (· ∉ registry.catalog.contracts)).eraseDups
  complete : openCalls registry calls = calls.length → outcome.result = .ok calls.length
  refused : ∀ call, calls[openCalls registry calls]? = some call →
    outcome.result = .error (.registry
      (.locked call.entry.contract (phases.generation registry.phase)))
  /-- The phases are as the last call left them. -/
  left : outcome.phases = ((calls.take outcome.made).getLast?.map (·.left)).getD phases

theorem follows_outcome (calls : List (MakerCall α)) (registry : Registry α) (phases : Phases) :
    Follows calls registry phases (outcome 0 registry phases calls) where
  made := Nat.zero_add _
  appended := rfl
  candidates := fun contract => Catalog.candidates_insertAll ..
  contracts := Catalog.contracts_insertAll ..
  complete := fun hall => by
    have hnone : calls[openCalls registry calls]? = none := List.getElem?_eq_none (by omega)
    simp only [outcome, hnone, Nat.zero_add]
  refused := fun call hcall => by simp only [outcome, hcall]
  left := by
    have hmade : (outcome 0 registry phases calls).made =
        min (openCalls registry calls + 1) calls.length := Nat.zero_add _
    rw [hmade, ← List.take_take, List.take_length]
    rfl

/-- Registering a manifest. If some name stands for no set, nothing is made and nothing changes.
Otherwise the maker is called for one entry after the other until the phase of the registry is
locked once it has returned: the bindings of the calls before are appended to what the registry
held, that of the last call is refused, and nothing is asked of the maker after that. -/
theorem registerWith_outcome (manifest : Manifest) (make : Maker α) (registry : Registry α)
    (phases : Phases) :
    (∀ error, manifest.spelled.findSome? manifest.profileError? = some error →
      manifest.registerWith make registry phases =
        pure ⟨.error (.profile error), 0, registry, phases⟩) ∧
    (manifest.spelled.findSome? manifest.profileError? = none →
      ∃ resolved, manifest.resolvedEntries manifest.bindings = .ok resolved ∧
        resolved.map (·.1) = manifest.bindings ∧
        (∀ item ∈ resolved, manifest.required item.1.profiles = .ok item.2) ∧
        let calls := course make 0 resolved phases
        let outcome := (manifest.registerWith make registry phases).value
        calls.length = manifest.bindings.length ∧
        Follows calls registry phases outcome ∧
        ∀ other : Maker α,
          (∀ i call, i < outcome.made → calls[i]? = some call →
            other i call.entry call.found = call.product) →
          manifest.registerWith other registry phases =
            manifest.registerWith make registry phases) := by
  refine ⟨fun error herror => ?_, fun hnone => ?_⟩
  · rw [registerWith, manifest.resolvedEntries_of_error herror]
  · obtain ⟨resolved, hresolved, hentries, hsets⟩ := manifest.resolvedEntries_of_none hnone
    have hwith : ∀ maker : Maker α, manifest.registerWith maker registry phases =
        registerEntries maker 0 resolved registry phases := fun maker => by
      rw [registerWith, hresolved]
    refine ⟨resolved, hresolved, hentries, hsets, ?_⟩
    intro calls outcome
    have hlength : calls.length = manifest.bindings.length := by
      rw [← hentries, List.length_map, length_course]
    have hfollows : Follows calls registry phases outcome := by
      have houtcome : outcome = Manifest.outcome 0 registry phases calls := by
        rw [← registerEntries_eq_outcome, ← hwith]
      rw [houtcome]
      exact follows_outcome calls registry phases
    refine ⟨hlength, hfollows, fun other hother => ?_⟩
    rw [hwith, hwith]
    refine registerEntries_congr 0 resolved registry phases fun i call hi hcall => ?_
    have hlt : i < calls.length := (List.getElem?_eq_some_iff.mp hcall).1
    have hmade : i < outcome.made := by
      rw [hfollows.made]
      exact Nat.lt_min.mpr ⟨Nat.lt_succ_of_le hi, hlt⟩
    rw [Nat.zero_add]
    exact hother i call hmade hcall

/-- Three entries, and a maker whose second call locks the phase of a registry that is not empty. -/
def midwayManifest : Manifest where
  profiles := [("gpu", 7)]
  bindings := [⟨"clock", "Quartz", .names ["gpu", "SERVER"]⟩, ⟨"store", "Disk", .mask 3⟩,
    ⟨"clock", "Sundial", .names []⟩]

def midwayMaker : Maker String := fun made entry _ =>
  { implementation := entry.implementation, locked := if made = 1 then [⟨1⟩, ⟨0⟩] else [] }

def midwayRegistry : Registry String := ⟨⟨0⟩, .grouped [⟨"store", .any, "Memory"⟩]⟩

def midwayPhases : Phases := ⟨[⟨1, false⟩, ⟨2, false⟩]⟩

theorem registerWith_outcome_midway :
    let outcome :=
      (midwayManifest.registerWith midwayMaker midwayRegistry midwayPhases).value
    let nameless : Manifest := { midwayManifest with profiles := [] }
    let closed : Phases := ⟨[⟨1, true⟩]⟩
    outcome.made = 2 ∧ outcome.result = .error (.registry (.locked "store" 1)) ∧
      outcome.phases = ⟨[⟨1, true⟩, ⟨2, true⟩]⟩ ∧
      outcome.registry.catalog.candidates "clock" = [⟨"clock", ⟨136⟩, "Quartz"⟩] ∧
      outcome.registry.catalog.candidates "store" = [⟨"store", .any, "Memory"⟩] ∧
      nameless.registerWith midwayMaker midwayRegistry closed =
        pure ⟨.error (.profile (.unknown "gpu")), 0, midwayRegistry, closed⟩ := by
  intro outcome nameless closed
  obtain ⟨resolved, hresolved, -, -, -, hfollows, -⟩ :=
    (registerWith_outcome midwayManifest midwayMaker midwayRegistry midwayPhases).2 (by decide)
  cases hresolved
  exact ⟨hfollows.made, hfollows.refused _ rfl, hfollows.left, hfollows.candidates "clock",
    hfollows.candidates "store",
    (registerWith_outcome nameless midwayMaker midwayRegistry closed).1 _ (by decide)⟩

end Manifest

end PluginHost
