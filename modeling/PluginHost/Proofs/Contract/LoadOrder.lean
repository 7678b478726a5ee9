import PluginHost.Proofs.Contract.Views

/-!
# The order of loading decides nothing

Plugins load bindings into a registry, one at a time or with a manifest, and in no particular order.
Two registries that took the same bindings in different orders hold them in different orders, but
every answer that a session acts on is the same: a contract with rivals is ambiguous in both, and
nowhere does the binding that came first win.
-/
namespace PluginHost

variable {α : Type}

/-! ## What is loaded -/

/-- What a plugin loads into a registry. -/
inductive Load (α : Type) where
  | add (binding : Binding α)
  /-- The bindings of a manifest. An implementation is made from its entry and from the number of
  those made before. -/
  | register (manifest : Manifest) (implement : Nat → BindingEntry → α)

namespace Load

/-- A maker that looks at no phase and locks none. -/
def maker (implement : Nat → BindingEntry → α) : Maker α := fun made entry _ =>
  { implementation := implement made entry }

/-- The registry after loading, or why it did not take everything. -/
def into (load : Load α) (registry : Registry α) (phases : Phases) :
    Except RegistrationError (Registry α) :=
  match load with
  | .add binding => (registry.add phases binding).value.mapError .registry
  | .register manifest implement =>
    let registration := (manifest.registerWith (maker implement) registry phases).value
    registration.result.map fun _ => registration.registry

/-- Every profile name stands for a set. -/
def Resolves : Load α → Prop
  | .add _ => True
  | .register manifest _ => ∀ name ∈ manifest.spelled, ∃ set, manifest.profile name = .ok set

/-- The bindings of resolved entries, where `made` implementations were made before. -/
def offered (implement : Nat → BindingEntry → α) (made : Nat) :
    List (BindingEntry × ProfileSet) → List (Binding α)
  | [] => []
  | (entry, required) :: entries =>
    ⟨entry.contract, required, implement made entry⟩ :: offered implement (made + 1) entries

def bindings : Load α → List (Binding α)
  | .add binding => [binding]
  | .register manifest implement =>
    match manifest.resolvedEntries manifest.bindings with
    | .ok entries => offered implement 0 entries
    | .error _ => []

/-- Registering a manifest with the names of its implementations is one way of loading it. -/
theorem into_named (manifest : Manifest) (registry : Registry String) (phases : Phases) :
    (register manifest fun _ entry => entry.implementation).into registry phases =
      (let registration := (manifest.registerInto registry phases).value
      registration.result.map fun _ => registration.registry) := rfl

section Open

variable {registry : Registry α} {phases : Phases} (hopen : registry.isLocked phases = false)
include hopen

theorem registerEntries_maker (implement : Nat → BindingEntry → α) (made : Nat)
    (entries : List (BindingEntry × ProfileSet)) :
    (Manifest.registerEntries (maker implement) made entries registry phases).value =
      ⟨.ok (made + entries.length), made + entries.length,
        { registry with
          catalog := registry.catalog.insertAll (offered implement made entries) }, phases⟩ := by
  induction entries generalizing made registry with
  | nil => rfl
  | cons item entries ih =>
    obtain ⟨entry, required⟩ := item
    have hcount : made + (entries.length + 1) = made + 1 + entries.length := by omega
    let binding : Binding α := ⟨entry.contract, required, implement made entry⟩
    let filled : Registry α := { registry with catalog := registry.catalog.insert binding }
    have hadd := Manifest.add_of_open hopen binding
    have hfilled : filled.isLocked phases = false := hopen
    have hrest := ih hfilled (made + 1)
    rw [List.length_cons, hcount]
    simpa [Manifest.registerEntries, Manifest.lockAll, offered, maker, hadd, binding, filled]
      using hrest

/-- An open registry takes what is loaded, and all of it. -/
theorem into_of_open {load : Load α} (hresolves : load.Resolves) :
    load.into registry phases =
      .ok { registry with catalog := registry.catalog.insertAll load.bindings } := by
  cases load with
  | add binding =>
    rw [into, Manifest.add_of_open hopen]
    rfl
  | register manifest implement =>
    have hentries := manifest.resolvedEntries_eq hresolves
    simp [into, Manifest.registerWith, bindings, hentries, registerEntries_maker hopen, Except.map]

end Open

end Load

namespace Registry

/-- Loads in turn, each at its moment with the phases of that moment. -/
def loadAll (registry : Registry α) :
    List (Load α × Phases) → Except RegistrationError (Registry α)
  | [] => .ok registry
  | (load, phases) :: loads => do (← load.into registry phases).loadAll loads

/-- The bindings that are loaded in turn. -/
def loaded (loads : List (Load α × Phases)) : List (Binding α) := loads.flatMap (·.1.bindings)

/-- At the moment of each load the phase of the registry is open and the names resolve. -/
def Admits (registry : Registry α) (loads : List (Load α × Phases)) : Prop :=
  ∀ load ∈ loads, registry.isLocked load.2 = false ∧ load.1.Resolves

theorem loadAll_of_admits {registry : Registry α} {loads : List (Load α × Phases)}
    (h : registry.Admits loads) :
    registry.loadAll loads =
      .ok { registry with catalog := registry.catalog.insertAll (loaded loads) } := by
  induction loads generalizing registry with
  | nil => rfl
  | cons item loads ih =>
    obtain ⟨load, phases⟩ := item
    obtain ⟨⟨hopen, hresolves⟩, hothers⟩ := List.forall_mem_cons.mp h
    let filled : Registry α :=
      { registry with catalog := registry.catalog.insertAll load.bindings }
    have hadmits : filled.Admits loads := hothers
    rw [loadAll, Load.into_of_open hopen hresolves]
    refine (ih hadmits).trans ?_
    simp only [filled, loaded, List.flatMap_cons, Catalog.insertAll, List.foldl_append]

/-- Loading the same in another order loads the same bindings. -/
theorem loaded_perm {loads others : List (Load α × Phases)}
    (h : (loads.map (·.1)).Perm (others.map (·.1))) : (loaded loads).Perm (loaded others) := by
  have hbindings (loads : List (Load α × Phases)) :
      loaded loads = (loads.map (·.1)).flatMap (·.bindings) := by
    rw [loaded, List.flatMap_map]
  rw [hbindings, hbindings]
  exact h.flatMap_right _

end Registry

/-! ## What is insensitive to order -/

/-- Two resolutions of one class, which give the same binding if they give one. -/
structure Resolution.Alike (one other : Resolution α) : Prop where
  missing_iff : one = .missing ↔ other = .missing
  unique_iff : ∀ binding, one = .unique binding ↔ other = .unique binding
  isAmbiguous_eq : one.isAmbiguous = other.isAmbiguous

section Perm

variable {first second : List (Binding α)} (h : first.Perm second)
include h

theorem Resolution.ofValid_alike : (ofValid first).Alike (ofValid second) where
  missing_iff := by
    rw [ofValid_eq_missing_iff, ofValid_eq_missing_iff, ← List.length_eq_zero_iff, h.length_eq,
      List.length_eq_zero_iff]
  unique_iff binding := by
    rw [ofValid_eq_unique_iff, ofValid_eq_unique_iff]
    constructor
    · rintro rfl
      exact List.perm_singleton.mp h.symm
    · rintro rfl
      exact List.perm_singleton.mp h
  isAmbiguous_eq := by
    rw [Bool.eq_iff_iff, isAmbiguous_ofValid, isAmbiguous_ofValid, h.length_eq]

theorem Locator.verdict_perm (contract : String) (active : ProfileSet) :
    verdict contract active first = verdict contract active second := by
  match first, h with
  | [], h => rw [h.nil_eq]
  | [only], h => rw [List.perm_singleton.mp h.symm]
  | one :: another :: others, h =>
    have htwo : 2 ≤ second.length := h.length_eq ▸ Nat.le_add_left ..
    rw [verdict_eq_ambiguous_iff.mpr ⟨htwo, rfl, rfl, rfl⟩, ← h.length_eq]
    rfl

end Perm

theorem eraseDups_perm {first second : List String} (h : first.Perm second) :
    first.eraseDups.Perm second.eraseDups :=
  (List.perm_ext_iff_of_nodup (nodup_eraseDups _) (nodup_eraseDups _)).mpr fun element => by
    rw [List.mem_eraseDups, List.mem_eraseDups, h.mem_iff]

namespace Registry

/-- What two registries answer alike under some active profiles, each with the phases of its own
locators. -/
structure AnswersAlike (one other : Registry α) (phases otherPhases : Phases)
    (active : ProfileSet) : Prop where
  resolves : ∀ contract,
    (one.resolve contract active).value.Alike (other.resolve contract active).value
  /-- The reports differ in their order at most, and in the rivals that they show. -/
  reports : ((one.ambiguities active).map (·.contract)).Perm
    ((other.ambiguities active).map (·.contract))
  opens : Locator.ofRegistry one phases active = .ok ⟨one, active⟩ ∧
    Locator.ofRegistry other otherPhases active = .ok ⟨other, active⟩
  /-- Locators give the same binding or the same error, also with the number of candidates. -/
  locates : ∀ locator, Locator.OpenedOver one phases locator → locator.active = active →
    ∀ another, Locator.OpenedOver other otherPhases another → another.active = active →
      ∀ contract, (locator.locateBinding contract).value = (another.locateBinding contract).value ∧
        (locator.locate contract).value = (another.locate contract).value

section Grouped

variable {one other : Registry α} {taken others : List (Binding α)}
  (hone : one.catalog = .grouped taken) (hother : other.catalog = .grouped others)
  (hsame : taken.Perm others)
include hone hother hsame

theorem valid_perm (contract : String) (active : ProfileSet) :
    (one.valid contract active).Perm (other.valid contract active) := by
  rw [valid, valid, hone, hother, Catalog.candidates_grouped, Catalog.candidates_grouped]
  exact (hsame.filter _).filter _

theorem resolve_alike (contract : String) (active : ProfileSet) :
    (one.resolve contract active).value.Alike (other.resolve contract active).value := by
  rw [value_resolve, value_resolve]
  exact Resolution.ofValid_alike (valid_perm hone hother hsame contract active)

theorem ambiguities_perm (active : ProfileSet) :
    ((one.ambiguities active).map (·.contract)).Perm
      ((other.ambiguities active).map (·.contract)) := by
  rw [contracts_ambiguities hone, contracts_ambiguities hother]
  simp only [fun contract => (resolve_alike hone hother hsame contract active).isAmbiguous_eq]
  exact (eraseDups_perm (hsame.map _)).filter _

theorem locateBinding_eq (contract : String) {locator another : Locator α}
    (hlocator : locator.registry = one) (hanother : another.registry = other)
    (hactive : locator.active = another.active) :
    (locator.locateBinding contract).value = (another.locateBinding contract).value := by
  rw [Locator.value_locateBinding, Locator.value_locateBinding, hlocator, hanother, hactive]
  exact Locator.verdict_perm (valid_perm hone hother hsame contract _) contract _

end Grouped

/-- Two registries that start without bindings and are locked after they took the same bindings, in
whatever orders and by whatever loads. -/
theorem load_order_indifferent {one other : Registry α} (hone : one.catalog = .empty)
    (hother : other.catalog = .empty) {loads otherLoads : List (Load α × Phases)}
    (hadmits : one.Admits loads) (hotherAdmits : other.Admits otherLoads)
    (hsame : (loaded loads).Perm (loaded otherLoads)) (phases otherPhases : Phases)
    (hlocked : one.isLocked phases = true) (hotherLocked : other.isLocked otherPhases = true) :
    ∃ filled otherFilled, one.loadAll loads = .ok filled ∧
      other.loadAll otherLoads = .ok otherFilled ∧
      ∀ active, filled.AnswersAlike otherFilled phases otherPhases active := by
  refine ⟨_, _, loadAll_of_admits hadmits, loadAll_of_admits hotherAdmits, fun active => ?_⟩
  rw [hone, hother, Catalog.insertAll_empty, Catalog.insertAll_empty]
  exact {
    resolves := fun contract => resolve_alike rfl rfl hsame contract active
    reports := ambiguities_perm rfl rfl hsame active
    opens := ⟨Locator.ofRegistry_eq_ok_iff.mpr ⟨hlocked, rfl⟩,
      Locator.ofRegistry_eq_ok_iff.mpr ⟨hotherLocked, rfl⟩⟩
    locates := fun locator hlocator hactive another hanother hsameActive contract => by
      have hfound := locateBinding_eq rfl rfl hsame contract hlocator.registry_eq
        hanother.registry_eq (hactive.trans hsameActive.symm)
      exact ⟨hfound, by rw [Locator.value_locate, Locator.value_locate, hfound]⟩ }

/-- A manifest and one more binding are loaded into two registries in opposite orders, and the first
registry is locked before the second has taken both. -/
theorem load_order_indifferent_rivals :
    let opened : Phases := ⟨[⟨1, false⟩, ⟨1, false⟩]⟩
    let between : Phases := ⟨[⟨1, true⟩, ⟨1, false⟩]⟩
    let locked : Phases := ⟨[⟨1, true⟩, ⟨1, true⟩]⟩
    let plugin : Load String := .register rivalManifest fun _ entry => entry.implementation
    let single : Load String := .add ⟨"store", .any, "Memory"⟩
    let one : Registry String := { phase := ⟨0⟩ }
    let other : Registry String := { phase := ⟨1⟩ }
    ∃ filled otherFilled, one.loadAll [(plugin, opened), (single, opened)] = .ok filled ∧
      other.loadAll [(single, opened), (plugin, between)] = .ok otherFilled ∧
      (filled.catalog.candidates "store").map (·.implementation) = ["Disk", "Memory"] ∧
      (otherFilled.catalog.candidates "store").map (·.implementation) = ["Memory", "Disk"] ∧
      filled.AnswersAlike otherFilled locked locked ⟨129⟩ := by
  intro opened between locked plugin single one other
  have hplugin : plugin.Resolves := by
    intro name hname
    have hnames : rivalManifest.spelled = ["gpu"] := rfl
    obtain rfl : name = "gpu" := by simpa [hnames] using hname
    exact ⟨⟨128⟩, by decide⟩
  have hadmits : one.Admits [(plugin, opened), (single, opened)] :=
    List.forall_mem_cons.mpr ⟨⟨rfl, hplugin⟩, List.forall_mem_singleton.mpr ⟨rfl, trivial⟩⟩
  have hotherAdmits : other.Admits [(single, opened), (plugin, between)] :=
    List.forall_mem_cons.mpr ⟨⟨rfl, trivial⟩, List.forall_mem_singleton.mpr ⟨rfl, hplugin⟩⟩
  have hsame : (loaded [(plugin, opened), (single, opened)]).Perm
      (loaded [(single, opened), (plugin, between)]) := loaded_perm (.swap ..)
  obtain ⟨filled, otherFilled, hfilled, hotherFilled, halike⟩ :=
    load_order_indifferent rfl rfl hadmits hotherAdmits hsame locked locked rfl rfl
  refine ⟨filled, otherFilled, hfilled, hotherFilled, ?_, ?_, halike ⟨129⟩⟩
  · cases hfilled
    decide
  · cases hotherFilled
    decide

end Registry

end PluginHost
