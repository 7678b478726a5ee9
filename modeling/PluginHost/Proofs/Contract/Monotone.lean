import PluginHost.Proofs.Contract.Filling
import PluginHost.Proofs.Contract.Resolution
import PluginHost.Proofs.Profiles.Members

/-!
# More active profiles

What is valid stays valid when further profiles become active. So rivals stay rivals, and an
ambiguity never goes away by activating more. Whether a contract is ambiguous is decided by two of
its candidates at a time, and the profiles that make it so are those that the two require together.
-/
namespace PluginHost

/-- Two elements are kept exactly if there are two positions with elements to keep. -/
theorem two_le_length_filter_iff {β : Type} {p : β → Bool} {elements : List β} :
    2 ≤ (elements.filter p).length ↔
      ∃ (i j : Nat) (first second : β), i < j ∧
        elements[i]? = some first ∧ elements[j]? = some second ∧
        p first = true ∧ p second = true := by
  induction elements with
  | nil => simp
  | cons element elements ih =>
    cases hkept : p element with
    | false =>
      rw [List.filter_cons_of_neg (by simp [hkept]), ih]
      constructor
      · rintro ⟨i, j, first, second, hlt, hi, hj, hpair⟩
        exact ⟨i + 1, j + 1, first, second, Nat.succ_lt_succ hlt, hi, hj, hpair⟩
      · rintro ⟨_ | i, _ | j, first, second, hlt, hi, hj, hfirst, hsecond⟩
        -- the first position holds what is not kept
        · exact absurd hlt (Nat.lt_irrefl 0)
        · rw [List.getElem?_cons_zero, Option.some.injEq] at hi
          rw [← hi, hkept] at hfirst
          cases hfirst
        · exact absurd hlt (Nat.not_lt_zero _)
        · exact ⟨i, j, first, second, Nat.lt_of_succ_lt_succ hlt, hi, hj, hfirst, hsecond⟩
    | true =>
      rw [List.filter_cons_of_pos hkept, List.length_cons, Nat.succ_le_succ_iff,
        Nat.one_le_iff_ne_zero, ← Nat.pos_iff_ne_zero, List.length_pos_iff_exists_mem]
      constructor
      · rintro ⟨second, hmem⟩
        obtain ⟨hmem, hsecond⟩ := List.mem_filter.mp hmem
        obtain ⟨j, hj⟩ := List.mem_iff_getElem?.mp hmem
        exact ⟨0, j + 1, element, second, Nat.succ_pos j, rfl, hj, hkept, hsecond⟩
      · rintro ⟨i, _ | j, first, second, hlt, -, hj, -, hsecond⟩
        · exact absurd hlt (Nat.not_lt_zero _)
        · exact ⟨second, List.mem_filter.mpr ⟨List.mem_iff_getElem?.mpr ⟨j, hj⟩, hsecond⟩⟩

variable {α : Type}

/-- A binding is valid where the active profiles contain those that it requires. -/
theorem Binding.isValidFor_eq_contains (binding : Binding α) (active : ProfileSet) :
    binding.isValidFor active = active.contains binding.profiles := by
  rw [Bool.eq_iff_iff, binding.isValidFor_iff, ProfileSet.contains, beq_iff_eq]

/-- A binding stays valid under more profiles. -/
theorem Binding.isValidFor_of_contains {binding : Binding α} {narrow wide : ProfileSet}
    (hwide : wide.contains narrow = true) (h : binding.isValidFor narrow = true) :
    binding.isValidFor wide = true := by
  rw [isValidFor_eq_contains] at h ⊢
  exact ProfileSet.contains_trans hwide h

namespace Resolution

theorem valid_sublist {narrow wide : ProfileSet} (hwide : wide.contains narrow = true)
    (candidates : List (Binding α)) :
    (valid narrow candidates).Sublist (valid wide candidates) := by
  rw [← filter_isValidFor, ← filter_isValidFor]
  exact List.monotone_filter_right candidates fun binding => binding.isValidFor_of_contains hwide

/-- Two candidates can both serve where the active profiles contain what they require together. -/
theorem two_le_length_valid_iff {active : ProfileSet} {candidates : List (Binding α)} :
    2 ≤ (valid active candidates).length ↔
      ∃ (i j : Nat) (first second : Binding α), i < j ∧
        candidates[i]? = some first ∧ candidates[j]? = some second ∧
        active.contains (first.profiles ∪ second.profiles) = true := by
  simp only [← filter_isValidFor, two_le_length_filter_iff, Binding.isValidFor_eq_contains,
    ProfileSet.contains_union_iff]

end Resolution

namespace Registry

/-- What the answers under more active profiles have to do with those under fewer. -/
structure Widens (registry : Registry α) (narrow wide : ProfileSet) : Prop where
  valid : ∀ contract, ∀ binding ∈ registry.catalog.candidates contract,
    binding.isValidFor narrow = true → binding.isValidFor wide = true
  ambiguous : ∀ contract, (registry.resolve contract narrow).value.isAmbiguous = true →
    (registry.resolve contract wide).value.isAmbiguous = true
  missing : ∀ contract, (registry.resolve contract wide).value = .missing →
    (registry.resolve contract narrow).value = .missing
  /-- Whoever serves alone served alone before, or nobody did. -/
  unique : ∀ contract binding, (registry.resolve contract wide).value = .unique binding →
    (registry.resolve contract narrow).value = .unique binding ∨
      (registry.resolve contract narrow).value = .missing
  report : ((registry.ambiguities narrow).map (·.contract)).Sublist
    ((registry.ambiguities wide).map (·.contract))

theorem isAmbiguous_resolve_iff {registry : Registry α} {contract : String}
    {active : ProfileSet} :
    (registry.resolve contract active).value.isAmbiguous = true ↔
      2 ≤ (registry.valid contract active).length := by
  rw [value_resolve, Resolution.isAmbiguous_ofValid]

section Widens

variable {registry : Registry α} {narrow wide : ProfileSet}
  (hwide : wide.contains narrow = true)
include hwide

variable (registry) in
theorem valid_widens (contract : String) :
    (registry.valid contract narrow).Sublist (registry.valid contract wide) :=
  Resolution.valid_sublist hwide _

theorem isAmbiguous_widens {contract : String}
    (h : (registry.resolve contract narrow).value.isAmbiguous = true) :
    (registry.resolve contract wide).value.isAmbiguous = true := by
  rw [isAmbiguous_resolve_iff] at h ⊢
  exact Nat.le_trans h (valid_widens registry hwide contract).length_le

theorem unique_narrows {contract : String} {binding : Binding α}
    (h : (registry.resolve contract wide).value = .unique binding) :
    (registry.resolve contract narrow).value = .unique binding ∨
      (registry.resolve contract narrow).value = .missing := by
  have hvalid := valid_widens registry hwide contract
  rw [value_resolve, Resolution.ofValid_eq_unique_iff] at h
  rw [value_resolve, Resolution.ofValid_eq_unique_iff, Resolution.ofValid_eq_missing_iff]
  rw [h] at hvalid
  exact (List.sublist_singleton.mp hvalid).symm

theorem widens {taken : List (Binding α)} (h : registry.Filled taken) :
    registry.Widens narrow wide where
  valid _ _ _ hvalid := Binding.isValidFor_of_contains hwide hvalid
  ambiguous _ hambiguous := isAmbiguous_widens hwide hambiguous
  missing contract hmissing := by
    have hvalid := valid_widens registry hwide contract
    rw [value_resolve, Resolution.ofValid_eq_missing_iff] at hmissing ⊢
    rw [hmissing] at hvalid
    exact List.sublist_nil.mp hvalid
  unique _ _ hunique := unique_narrows hwide hunique
  report := by
    rw [contracts_ambiguities h.catalog_eq, contracts_ambiguities h.catalog_eq]
    exact List.monotone_filter_right _ fun _ => isAmbiguous_widens hwide

end Widens

/-! ## All profiles at once -/

theorem contains_all (active : ProfileSet) :
    ProfileSet.any.complement.contains active = true := by
  simp [ProfileSet.contains, ProfileSet.any, ProfileSet.complement]

/-- Where every profile is active, every candidate is valid. -/
theorem valid_all (registry : Registry α) (contract : String) :
    registry.valid contract ProfileSet.any.complement = registry.catalog.candidates contract := by
  refine List.filter_eq_self.mpr fun binding _ => ?_
  simp [ProfileSet.any, ProfileSet.complement]

/-- Ambiguity is decided by pairs of candidates, and it only grows with the active profiles. Under
all profiles the ambiguous contracts are those with two candidates, and others are ambiguous under
none. -/
theorem ambiguity_monotone {registry : Registry α} {taken : List (Binding α)}
    (h : registry.Filled taken) :
    (∀ contract active, (registry.resolve contract active).value.isAmbiguous = true ↔
      ∃ (i j : Nat) (first second : Binding α), i < j ∧
        (registry.catalog.candidates contract)[i]? = some first ∧
        (registry.catalog.candidates contract)[j]? = some second ∧
        active.contains (first.profiles ∪ second.profiles) = true) ∧
      (∀ narrow wide : ProfileSet, wide.contains narrow = true → registry.Widens narrow wide) ∧
      (registry.ambiguities ProfileSet.any.complement).map (·.contract) =
        registry.catalog.contracts.filter
          (fun contract => 2 ≤ (registry.catalog.candidates contract).length) ∧
      ∀ contract,
        contract ∉ (registry.ambiguities ProfileSet.any.complement).map (·.contract) →
          ∀ active, (registry.resolve contract active).value.isAmbiguous = false := by
  have hreport := contracts_ambiguities h.catalog_eq ProfileSet.any.complement
  refine ⟨fun contract active => ?_, fun narrow wide hwide => widens hwide h, ?_,
    fun contract hunreported active => ?_⟩
  · rw [isAmbiguous_resolve_iff]
    exact Resolution.two_le_length_valid_iff
  · rw [hreport, h.catalog_eq, Catalog.contracts_grouped, ← h.catalog_eq]
    refine List.filter_congr fun contract _ => ?_
    rw [Bool.eq_iff_iff, isAmbiguous_resolve_iff, valid_all, decide_eq_true_iff]
  · refine Bool.eq_false_iff.mpr fun hambiguous => hunreported ?_
    -- what is ambiguous under some profiles is so under all, and has candidates
    have hall := isAmbiguous_widens (contains_all active) hambiguous
    rw [hreport]
    exact List.mem_filter.mpr ⟨mem_contracts_of_isAmbiguous h.catalog_eq hall, hall⟩

/-- Two candidates for one contract, which require the first and the last profile, and one for
another. -/
def apart : List (Binding String) :=
  [⟨"clock", ⟨1⟩, "Quartz"⟩, ⟨"store", .any, "Disk"⟩, ⟨"clock", ⟨0x80000000⟩, "Sundial"⟩]

theorem ambiguity_monotone_apart :
    let narrow : ProfileSet := ⟨1⟩
    let wide : ProfileSet := ⟨0x80000001⟩
    let registry : Registry String := { phase := ⟨0⟩, catalog := .grouped apart }
    registry.Filled apart ∧ wide.contains narrow = true ∧ registry.Widens narrow wide ∧
      (registry.resolve "clock" narrow).value = .unique ⟨"clock", ⟨1⟩, "Quartz"⟩ ∧
      (registry.resolve "clock" wide).value.isAmbiguous = true ∧
      (registry.ambiguities ProfileSet.any.complement).map (·.contract) = ["clock"] ∧
      "store" ∉ (registry.ambiguities ProfileSet.any.complement).map (·.contract) ∧
      ∀ active, (registry.resolve "store" active).value.isAmbiguous = false := by
  intro narrow wide registry
  let phases : Phases := ⟨[⟨1, false⟩]⟩
  have hfilled : registry.Filled apart :=
    .added ⟨"clock", ⟨0x80000000⟩, "Sundial"⟩ phases
      (.added ⟨"store", .any, "Disk"⟩ phases
        (.added ⟨"clock", ⟨1⟩, "Quartz"⟩ phases (.opened ⟨0⟩) rfl) rfl) rfl
  obtain ⟨hpairs, hwidens, hreport, hsafe⟩ := ambiguity_monotone hfilled
  have hwide : wide.contains narrow = true := by decide
  have hambiguous : (registry.resolve "clock" wide).value.isAmbiguous = true :=
    (hpairs "clock" wide).mpr ⟨0, 1, _, _, Nat.zero_lt_one, rfl, rfl, by decide⟩
  have hclock : (registry.ambiguities ProfileSet.any.complement).map (·.contract) = ["clock"] :=
    hreport.trans (by decide)
  have hstore : "store" ∉
      (registry.ambiguities ProfileSet.any.complement).map (·.contract) := by
    rw [hclock]
    decide
  exact ⟨hfilled, hwide, hwidens narrow wide hwide, by decide, hambiguous, hclock, hstore,
    hsafe "store" hstore⟩

end Registry

end PluginHost
