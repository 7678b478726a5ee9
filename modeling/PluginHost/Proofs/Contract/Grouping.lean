import Mathlib.Data.List.Induction
import Mathlib.Data.List.Nodup
import PluginHost.Contract.Catalog

/-!
# Catalogs as grouped lists of bindings

What one more binding does to a catalog is said by three equations: to its contracts, to the
candidates of each contract, and to its size. They hold of every catalog. One that was filled from
nothing is moreover decided by the list of its bindings: that list, grouped by contract.
-/
namespace PluginHost

/-! ## Distinct elements in order of first occurrence -/

section Distinct

variable {β : Type} [BEq β] [LawfulBEq β]

theorem eraseDups_concat [DecidableEq β] (elements : List β) (element : β) :
    (elements ++ [element]).eraseDups =
      if element ∈ elements then elements.eraseDups else elements.eraseDups ++ [element] := by
  by_cases h : element ∈ elements
  · simp [List.eraseDups_append, List.cons_removeAll, h]
  · simp [List.eraseDups_append, List.cons_removeAll, List.eraseDups_cons, h]

theorem nodup_eraseDups (elements : List β) : elements.eraseDups.Nodup := by
  classical
  induction elements using List.reverseRecOn with
  | nil => exact List.nodup_nil
  | append_singleton elements element ih =>
    rw [eraseDups_concat]
    split
    · exact ih
    · rename_i h
      rw [← List.concat_eq_append]
      exact List.Nodup.concat (mt List.mem_eraseDups.mp h) ih

end Distinct

namespace Catalog

variable {α : Type}

/-! ## What one binding adds -/

section Insert

variable (catalog : Catalog α) (binding : Binding α)

theorem contracts_insert :
    (catalog.insert binding).contracts =
      if binding.contract ∈ catalog.contracts then catalog.contracts
      else catalog.contracts ++ [binding.contract] := by
  obtain ⟨groups⟩ := catalog
  simp only [insert, contracts]
  induction groups with
  | nil => rfl
  | cons group groups ih =>
    by_cases h : group.contract = binding.contract
    · simp [insertInto, h]
    · simp only [insertInto, h, if_false, List.map_cons, ih, List.mem_cons, Ne.symm h, false_or,
        List.cons_append]
      exact apply_ite (List.cons group.contract) ..

theorem candidates_insert (contract : String) :
    (catalog.insert binding).candidates contract =
      catalog.candidates contract ++ [binding].filter (·.contract = contract) := by
  obtain ⟨groups⟩ := catalog
  simp only [insert, candidates]
  induction groups with
  | nil => by_cases h : binding.contract = contract <;> simp [insertInto, h]
  | cons group groups ih =>
    -- the binding goes into the first group of its contract, which is also the one that is read
    by_cases hgroup : group.contract = binding.contract
    · by_cases h : binding.contract = contract <;> simp [insertInto, hgroup, h]
    · by_cases h : group.contract = contract
      · subst h
        simp [insertInto, hgroup, Ne.symm hgroup]
      · simpa [insertInto, hgroup, h] using ih

theorem size_insert : (catalog.insert binding).size = catalog.size + 1 := by
  obtain ⟨groups⟩ := catalog
  simp only [insert, size]
  induction groups with
  | nil => rfl
  | cons group groups ih =>
    by_cases h : group.contract = binding.contract
    · simp [insertInto, h]
      omega
    · simp only [insertInto, h, if_false, List.flatMap_cons, List.length_append, ih]
      omega

end Insert

/-! ## What a list of bindings adds -/

/-- Adds bindings in turn. -/
def insertAll (catalog : Catalog α) (bindings : List (Binding α)) : Catalog α :=
  bindings.foldl insert catalog

@[simp] theorem insertAll_nil (catalog : Catalog α) : catalog.insertAll [] = catalog := rfl

@[simp] theorem insertAll_cons (catalog : Catalog α) (binding : Binding α)
    (bindings : List (Binding α)) :
    catalog.insertAll (binding :: bindings) = (catalog.insert binding).insertAll bindings := rfl

/-- The new candidates of a contract stand behind the old ones, in the order of the list. -/
theorem candidates_insertAll (catalog : Catalog α) (bindings : List (Binding α))
    (contract : String) :
    (catalog.insertAll bindings).candidates contract =
      catalog.candidates contract ++ bindings.filter (·.contract = contract) := by
  induction bindings generalizing catalog with
  | nil => simp
  | cons binding bindings ih =>
    rw [insertAll_cons, ih, candidates_insert, List.append_assoc, ← List.filter_append]
    rfl

/-- The new contracts stand behind the old ones, in order of first occurrence. -/
theorem contracts_insertAll (catalog : Catalog α) (bindings : List (Binding α)) :
    (catalog.insertAll bindings).contracts =
      catalog.contracts ++
        ((bindings.map (·.contract)).filter (· ∉ catalog.contracts)).eraseDups := by
  induction bindings generalizing catalog with
  | nil => simp
  | cons binding bindings ih =>
    rw [insertAll_cons, ih, contracts_insert]
    by_cases h : binding.contract ∈ catalog.contracts
    · simp [h]
    · have hrest : ((bindings.map (·.contract)).filter
            (· ∉ catalog.contracts ++ [binding.contract])) =
          ((bindings.map (·.contract)).filter (· ∉ catalog.contracts)).filter
            (fun contract => !contract == binding.contract) := by
        rw [List.filter_filter]
        refine List.filter_congr fun contract _ => ?_
        by_cases hsame : contract = binding.contract <;> simp [hsame]
      rw [if_neg h, hrest, List.map_cons, List.filter_cons, if_pos (decide_eq_true h),
        List.eraseDups_cons, List.append_assoc, List.singleton_append]

/-! ## Grouping a list of bindings -/

/-- The bindings of a list, grouped by contract. -/
def grouped (bindings : List (Binding α)) : Catalog α :=
  ⟨(bindings.map (·.contract)).eraseDups.map fun contract =>
    ⟨contract, bindings.filter (·.contract = contract)⟩⟩

theorem grouped_nil : grouped ([] : List (Binding α)) = .empty := rfl

/-- Where every contract has one group, a binding changes that group only. -/
theorem insertInto_map (binding : Binding α) {contracts : List String} (h : contracts.Nodup)
    (candidates : String → List (Binding α)) :
    insertInto binding (contracts.map fun contract => ⟨contract, candidates contract⟩) =
      (contracts.map fun contract =>
        ⟨contract, candidates contract ++ [binding].filter (·.contract = contract)⟩) ++
        if binding.contract ∈ contracts then [] else [⟨binding.contract, [binding]⟩] := by
  induction contracts with
  | nil => rfl
  | cons contract contracts ih =>
    obtain ⟨hnew, hothers⟩ := List.nodup_cons.mp h
    by_cases hsame : contract = binding.contract
    · subst hsame
      -- no other group is of this contract
      have hrest :
          (contracts.map fun contract => (⟨contract, candidates contract⟩ : Candidates α)) =
            contracts.map fun contract =>
              ⟨contract, candidates contract ++ [binding].filter (·.contract = contract)⟩ := by
        refine List.map_congr_left fun other hother => ?_
        have hne : binding.contract ≠ other := fun heq => hnew (heq ▸ hother)
        simp [hne]
      simp [insertInto, hrest]
    · simp [insertInto, hsame, Ne.symm hsame, ih hothers]

theorem insert_grouped (bindings : List (Binding α)) (binding : Binding α) :
    (grouped bindings).insert binding = grouped (bindings ++ [binding]) := by
  have hnew : binding.contract ∉ bindings.map (·.contract) →
      bindings.filter (·.contract = binding.contract) = [] := by
    intro h
    refine List.filter_eq_nil_iff.mpr fun other hother => ?_
    simpa using fun heq => h (List.mem_map.mpr ⟨other, hother, heq⟩)
  simp only [insert, grouped, insertInto_map binding (nodup_eraseDups _), List.map_append,
    List.map_singleton, eraseDups_concat, List.mem_eraseDups, List.filter_append]
  split
  · rw [List.append_nil]
  · rename_i h
    simp [hnew h]

theorem insertAll_grouped (before bindings : List (Binding α)) :
    (grouped before).insertAll bindings = grouped (before ++ bindings) := by
  induction bindings generalizing before with
  | nil => rw [insertAll_nil, List.append_nil]
  | cons binding bindings ih =>
    rw [insertAll_cons, insert_grouped, ih, List.append_assoc, List.singleton_append]

/-- A catalog that was filled from nothing is the grouped list of its bindings. -/
theorem insertAll_empty (bindings : List (Binding α)) :
    Catalog.empty.insertAll bindings = grouped bindings := by
  rw [← grouped_nil, insertAll_grouped, List.nil_append]

/-! ## What is read from a grouped list -/

section Grouped

variable (bindings : List (Binding α))

theorem contracts_grouped :
    (grouped bindings).contracts = (bindings.map (·.contract)).eraseDups := by
  simp [grouped, contracts, Function.comp_def]

theorem candidates_grouped (contract : String) :
    (grouped bindings).candidates contract = bindings.filter (·.contract = contract) := by
  rw [← insertAll_empty, candidates_insertAll]
  rfl

theorem size_grouped : (grouped bindings).size = bindings.length := by
  induction bindings using List.reverseRecOn with
  | nil => rfl
  | append_singleton bindings binding ih =>
    rw [← insert_grouped, size_insert, ih, List.length_append, List.length_singleton]

/-- Every group holds the bindings of its contract, and there is at least one. -/
theorem group_of_grouped {group : Candidates α} (h : group ∈ (grouped bindings).groups) :
    group.bindings = bindings.filter (·.contract = group.contract) ∧ group.bindings ≠ [] := by
  obtain ⟨contract, hcontract, rfl⟩ := List.mem_map.mp h
  obtain ⟨binding, hbinding, hsame⟩ := List.mem_map.mp (List.mem_eraseDups.mp hcontract)
  refine ⟨rfl, List.ne_nil_of_mem (a := binding) ?_⟩
  exact List.mem_filter.mpr ⟨hbinding, by simpa using hsame⟩

theorem isEmpty_grouped : (grouped bindings).isEmpty = true ↔ (grouped bindings).size = 0 := by
  rw [size_grouped, List.length_eq_zero_iff]
  cases bindings with
  | nil => simp [grouped, isEmpty]
  | cons binding bindings => simp [grouped, isEmpty, List.eraseDups_cons]

end Grouped

end Catalog

end PluginHost
