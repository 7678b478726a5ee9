import PluginHost.Contract.Locator
import PluginHost.Proofs.Contract.Grouping

/-!
# Resolution by the valid candidates

Resolving, searching, reporting ambiguities and locating each look through the candidates on their
own: one stops at the second valid candidate, one goes over all groups, one counts again. All of
them are functions of the same list, the valid candidates of a contract. That is said here for each,
and whoever compares two of them compares two functions of that list.
-/
namespace PluginHost

variable {α : Type}

/-! ## The valid candidates -/

theorem Binding.isValidFor_iff (binding : Binding α) (active : ProfileSet) :
    binding.isValidFor active = true ↔
      active.mask &&& binding.profiles.mask = binding.profiles.mask :=
  ProfileSet.satisfies_iff ..

namespace Resolution

/-- The candidates whose required profiles are all active, in their order. -/
def valid (active : ProfileSet) (candidates : List (Binding α)) : List (Binding α) :=
  candidates.filter fun binding => active.mask &&& binding.profiles.mask = binding.profiles.mask

theorem filter_isValidFor (active : ProfileSet) (candidates : List (Binding α)) :
    candidates.filter (·.isValidFor active) = valid active candidates :=
  List.filter_congr fun binding _ => by
    rw [Bool.eq_iff_iff, binding.isValidFor_iff, decide_eq_true_iff]

/-- What a list of valid candidates comes to. -/
def ofValid : List (Binding α) → Resolution α
  | [] => .missing
  | [only] => .unique only
  | first :: second :: _ => .ambiguous first second

/-- Nothing behind the second valid candidate matters. -/
theorem ofCandidates_eq (active : ProfileSet) (candidates : List (Binding α)) :
    ofCandidates active candidates = ofValid (valid active candidates) := by
  rw [← filter_isValidFor]
  induction candidates with
  | nil => rfl
  | cons candidate others ih =>
    cases hvalid : candidate.isValidFor active with
    | false => simp [ofCandidates, hvalid, ih]
    | true =>
      have hfilter : (candidate :: others).filter (·.isValidFor active) =
          candidate :: others.filter (·.isValidFor active) := List.filter_cons_of_pos hvalid
      rw [ofCandidates, if_pos hvalid, hfilter, ← List.head?_filter]
      cases others.filter (·.isValidFor active) <;> rfl

section OfValid

variable {bindings : List (Binding α)} {binding first second : Binding α}

theorem ofValid_eq_missing_iff : ofValid bindings = .missing ↔ bindings = [] := by
  match bindings with
  | [] => simp [ofValid]
  | [only] => simp [ofValid]
  | one :: another :: others => simp [ofValid]

theorem ofValid_eq_unique_iff : ofValid bindings = .unique binding ↔ bindings = [binding] := by
  match bindings with
  | [] => simp [ofValid]
  | [only] => simp [ofValid]
  | one :: another :: others => simp [ofValid]

theorem ofValid_eq_ambiguous_iff :
    ofValid bindings = .ambiguous first second ↔
      ∃ others, bindings = first :: second :: others := by
  match bindings with
  | [] => simp [ofValid]
  | [only] => simp [ofValid]
  | one :: another :: others => simp [ofValid]

theorem isAmbiguous_ofValid : (ofValid bindings).isAmbiguous = true ↔ 2 ≤ bindings.length := by
  match bindings with
  | [] => simp [ofValid, isAmbiguous]
  | [only] => simp [ofValid, isAmbiguous]
  | one :: another :: others => simp [ofValid, isAmbiguous]

theorem unique?_ofValid : (ofValid bindings).unique? = some binding ↔ bindings = [binding] := by
  match bindings with
  | [] => simp [ofValid, unique?]
  | [only] => simp [ofValid, unique?]
  | one :: another :: others => simp [ofValid, unique?]

end OfValid

end Resolution

/-! ## Registries and locators -/

namespace Registry

/-- The valid candidates of a contract. -/
def valid (registry : Registry α) (contract : String) (active : ProfileSet) : List (Binding α) :=
  Resolution.valid active (registry.catalog.candidates contract)

theorem value_resolve (registry : Registry α) (contract : String) (active : ProfileSet) :
    (registry.resolve contract active).value = .ofValid (registry.valid contract active) := by
  rw [valid, ← Resolution.ofCandidates_eq, resolve]
  -- an ambiguity is reported on the way
  split <;> rfl

/-- The ambiguity that a resolution amounts to. -/
theorem ambiguity?_eq_some_iff {active : ProfileSet} {group : Candidates α}
    {ambiguity : Ambiguity α} :
    ambiguity? active group = some ambiguity ↔
      ambiguity.contract = group.contract ∧ ambiguity.profiles = active ∧
        Resolution.ofCandidates active group.bindings =
          .ambiguous ambiguity.first ambiguity.second := by
  obtain ⟨contract, profiles, first, second⟩ := ambiguity
  cases hresolution : Resolution.ofCandidates active group.bindings with
  | missing => simp [ambiguity?, hresolution]
  | unique only => simp [ambiguity?, hresolution]
  | ambiguous one another =>
    simp only [ambiguity?, hresolution, Option.some.injEq, Ambiguity.mk.injEq,
      Resolution.ambiguous.injEq]
    constructor
    · rintro ⟨rfl, rfl, rfl, rfl⟩
      exact ⟨rfl, rfl, rfl, rfl⟩
    · rintro ⟨rfl, rfl, rfl, rfl⟩
      exact ⟨rfl, rfl, rfl, rfl⟩

theorem contract_ambiguities_map (active : ProfileSet) (contracts : List String)
    (candidates : String → List (Binding α)) :
    ((contracts.map fun contract => (⟨contract, candidates contract⟩ : Candidates α)).filterMap
        (ambiguity? active)).map (·.contract) =
      contracts.filter fun contract =>
        (Resolution.ofCandidates active (candidates contract)).isAmbiguous := by
  induction contracts with
  | nil => rfl
  | cons contract contracts ih =>
    cases hresolution : Resolution.ofCandidates active (candidates contract) with
    | missing => simpa [ambiguity?, Resolution.isAmbiguous, hresolution] using ih
    | unique only => simpa [ambiguity?, Resolution.isAmbiguous, hresolution] using ih
    | ambiguous first second => simpa [ambiguity?, Resolution.isAmbiguous, hresolution] using ih

section Ambiguities

variable {registry : Registry α} {taken : List (Binding α)}

/-- A registry that was filled from nothing reports its ambiguous contracts in the order in which
they first occurred. -/
theorem contracts_ambiguities (h : registry.catalog = .grouped taken) (active : ProfileSet) :
    (registry.ambiguities active).map (·.contract) =
      (taken.map (·.contract)).eraseDups.filter fun contract =>
        (registry.resolve contract active).value.isAmbiguous := by
  rw [ambiguities, h, Catalog.grouped, contract_ambiguities_map]
  refine List.filter_congr fun contract _ => ?_
  rw [value_resolve, valid, h, Catalog.candidates_grouped, Resolution.ofCandidates_eq]

theorem resolve_of_mem_ambiguities (h : registry.catalog = .grouped taken) {active : ProfileSet}
    {ambiguity : Ambiguity α} (hmem : ambiguity ∈ registry.ambiguities active) :
    ambiguity.profiles = active ∧
      (registry.resolve ambiguity.contract active).value =
        .ambiguous ambiguity.first ambiguity.second := by
  obtain ⟨group, hgroup, hsome⟩ := List.mem_filterMap.mp hmem
  obtain ⟨hcontract, hprofiles, hresolution⟩ := ambiguity?_eq_some_iff.mp hsome
  -- the group is the one that a lookup of its contract finds
  rw [h] at hgroup
  obtain ⟨hbindings, -⟩ := Catalog.group_of_grouped taken hgroup
  refine ⟨hprofiles, ?_⟩
  rw [value_resolve, valid, h, Catalog.candidates_grouped, hcontract, ← hbindings,
    ← Resolution.ofCandidates_eq, hresolution]

/-- A contract that is ambiguous has candidates, so it occurs among the contracts. -/
theorem mem_contracts_of_isAmbiguous (h : registry.catalog = .grouped taken) {contract : String}
    {active : ProfileSet}
    (hambiguous : (registry.resolve contract active).value.isAmbiguous = true) :
    contract ∈ (taken.map (·.contract)).eraseDups := by
  rw [value_resolve, Resolution.isAmbiguous_ofValid, valid, h, Catalog.candidates_grouped]
    at hambiguous
  obtain ⟨binding, hbinding⟩ := List.exists_mem_of_length_pos (Nat.lt_of_lt_of_le Nat.two_pos
    hambiguous)
  have htaken := List.mem_filter.mp (List.mem_filter.mp hbinding).1
  exact List.mem_eraseDups.mpr
    (List.mem_map.mpr ⟨binding, htaken.1, of_decide_eq_true htaken.2⟩)

end Ambiguities

end Registry

namespace Locator

/-- What a locator makes of the valid candidates. -/
def verdict (contract : String) (active : ProfileSet) (bindings : List (Binding α)) :
    Except LocateError (Binding α) :=
  match bindings with
  | [] => .error (.unbound contract active)
  | [only] => .ok only
  | _ => .error (.ambiguous contract active bindings.length)

theorem value_locateBinding (locator : Locator α) (contract : String) :
    (locator.locateBinding contract).value =
      verdict contract locator.active (locator.registry.valid contract locator.active) := by
  simp only [locateBinding, Traced.value_bind, Registry.value_resolve, Registry.valid,
    List.countP_eq_length_filter, Resolution.filter_isValidFor]
  match Resolution.valid locator.active (locator.registry.catalog.candidates contract) with
  | [] => rfl
  | [only] => rfl
  | first :: second :: others => rfl

section Verdict

variable {contract : String} {active : ProfileSet} {bindings : List (Binding α)}

theorem verdict_eq_ok_iff {binding : Binding α} :
    verdict contract active bindings = .ok binding ↔ bindings = [binding] := by
  match bindings with
  | [] => simp [verdict]
  | [only] => simp [verdict]
  | first :: second :: others => simp [verdict]

theorem verdict_eq_unbound_iff {name : String} {profiles : ProfileSet} :
    verdict contract active bindings = .error (.unbound name profiles) ↔
      bindings = [] ∧ name = contract ∧ profiles = active := by
  match bindings with
  | [] => simp [verdict, eq_comm]
  | [only] => simp [verdict]
  | first :: second :: others => simp [verdict]

theorem verdict_eq_ambiguous_iff {name : String} {profiles : ProfileSet} {candidates : Nat} :
    verdict contract active bindings = .error (.ambiguous name profiles candidates) ↔
      2 ≤ bindings.length ∧ name = contract ∧ profiles = active ∧
        candidates = bindings.length := by
  match bindings with
  | [] => simp [verdict]
  | [only] => simp [verdict]
  | first :: second :: others => simp [verdict, eq_comm]

end Verdict

theorem value_locate (locator : Locator α) (contract : String) :
    (locator.locate contract).value =
      (locator.locateBinding contract).value.map (·.implementation) := rfl

end Locator

end PluginHost
