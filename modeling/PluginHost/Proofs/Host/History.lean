import PluginHost.Proofs.Contract.Grouping
import PluginHost.Proofs.Host.Calls

/-!
# Registries remember what they took

The history of a registry is read off calls and their answers: the bindings that it acknowledged
since it was last cleared. Whatever else is called in between, its catalog is that list, grouped by
contract.
-/
namespace PluginHost.Host

variable {α : Type}

/-- What an answered call adds to the history of the registry at a position. -/
def remember (position : Nat) (history : List (Binding α)) :
    HostCall α × HostReply → List (Binding α)
  | (.add other binding, .acknowledged) =>
    if other = position then history ++ [binding] else history
  | (.clear other, .acknowledged) => if other = position then [] else history
  | _ => history

/-- The bindings that the registry at a position acknowledged since it was last cleared, oldest
first. -/
def history (position : Nat) (answered : List (HostCall α × HostReply)) : List (Binding α) :=
  answered.foldl (remember position) []

/-- The catalog of the registry at a position, which is empty before there is one. -/
def catalogAt (host : Host α) (position : Nat) : Catalog α :=
  (host.registries[position]?.map (·.catalog)).getD .empty

theorem catalogAt_setRegistry {host : Host α} {position : Nat} {registry : Registry α}
    (h : host.registries[position]? = some registry) (other : Registry α) (asked : Nat) :
    (host.setRegistry position other).catalogAt asked =
      if position = asked then other.catalog else host.catalogAt asked := by
  have hlt : position < host.registries.length := (List.getElem?_eq_some_iff.mp h).1
  by_cases hsame : position = asked
  · subst hsame
    simp [catalogAt, setRegistry, hlt]
  · simp [catalogAt, setRegistry, List.getElem?_set_ne hsame, hsame]

/-- A call changes the catalogs as it changes the histories. -/
theorem Takes.catalogAt {host : Host α} {call : HostCall α}
    {taken : Traced (HostReply × Host α)} (h : Takes host call taken) {position : Nat}
    {bindings : List (Binding α)} (hbefore : host.catalogAt position = .grouped bindings) :
    taken.value.2.catalogAt position =
      .grouped (remember position bindings (call, taken.value.1)) := by
  cases h with
  | @opened source phase =>
    -- a new registry is empty, as its place was before
    rcases Nat.lt_trichotomy position host.registries.length with hlt | heq | hgt
    · simpa [Host.catalogAt, remember, List.getElem?_append_left hlt] using hbefore
    · subst heq
      simpa [Host.catalogAt, remember] using hbefore
    · have hbeyond : (host.registries ++ [({ phase := phase } : Registry α)])[position]? = none :=
        List.getElem?_eq_none (by simp; omega)
      simpa [Host.catalogAt, remember, hbeyond, List.getElem?_eq_none (Nat.le_of_lt hgt)]
        using hbefore
  | @added other registry binding hregistry =>
    rw [catalogAt_setRegistry hregistry]
    by_cases hsame : other = position
    · subst hsame
      have hcatalog : registry.catalog = .grouped bindings := by
        simpa [Host.catalogAt, hregistry] using hbefore
      simp [remember, hcatalog, Catalog.insert_grouped]
    · simpa [remember, hsame] using hbefore
  | @cleared other registry hregistry =>
    rw [catalogAt_setRegistry hregistry]
    by_cases hsame : other = position
    · simp [remember, hsame, Catalog.grouped_nil]
    · simpa [remember, hsame] using hbefore
  | started | startedNext | locked | relocked | issued | refused => exact hbefore

/-- The catalog of a registry is its history, grouped by contract. -/
theorem catalogAt_run {calls : List (HostCall α)} {host : Host α}
    (hrun : ({} : Host α).run? calls = some host) (position : Nat) :
    host.catalogAt position =
      .grouped (history position (calls.zip (({} : Host α).replies calls))) := by
  refine run?_induction (motive := fun calls host => host.catalogAt position =
    .grouped (history position (calls.zip (({} : Host α).replies calls)))) ?_ ?_ hrun
  · exact Catalog.grouped_nil.symm
  · intro calls before call taken hbefore hcall ih
    have hzip : (calls ++ [call]).zip (({} : Host α).replies (calls ++ [call])) =
        calls.zip (({} : Host α).replies calls) ++ [(call, taken.value.1)] := by
      rw [replies_concat hbefore hcall, List.zip_append (length_replies hbefore).symm]
      rfl
    rw [hzip, history, List.foldl_append]
    exact (takes_of_call? hcall).catalogAt ih

/-- What a registry holds is what it acknowledged since it was last cleared. Its contracts stand in
the order in which they first occurred, and the bindings of each in the order in which they came,
equal ones included. -/
theorem registry_groups_history {calls : List (HostCall α)} {host : Host α}
    (hrun : ({} : Host α).run? calls = some host) {position : Nat} {registry : Registry α}
    (hregistry : host.registries[position]? = some registry) :
    let taken := history position (calls.zip (({} : Host α).replies calls))
    registry.catalog.contracts = (taken.map (·.contract)).eraseDups ∧
      (∀ group ∈ registry.catalog.groups,
        group.bindings = taken.filter (·.contract = group.contract) ∧ group.bindings ≠ []) ∧
      (∀ contract, registry.catalog.candidates contract = taken.filter (·.contract = contract)) ∧
      (∀ contract, contract ∉ taken.map (·.contract) →
        registry.catalog.candidates contract = []) ∧
      registry.catalog.size = taken.length ∧
      (registry.catalog.isEmpty = true ↔ registry.catalog.size = 0) := by
  intro taken
  have hcatalog : registry.catalog = .grouped taken := by
    simpa [catalogAt, hregistry] using catalogAt_run hrun position
  rw [hcatalog]
  refine ⟨Catalog.contracts_grouped taken,
    fun group hgroup => Catalog.group_of_grouped taken hgroup,
    Catalog.candidates_grouped taken, fun contract hnone => ?_, Catalog.size_grouped taken,
    Catalog.isEmpty_grouped taken⟩
  rw [Catalog.candidates_grouped]
  refine List.filter_eq_nil_iff.mpr fun binding hbinding => ?_
  simpa using fun heq => hnone (List.mem_map.mpr ⟨binding, hbinding, heq⟩)

/-- Two registries of one phase. The first is filled, cleared and filled again with a binding that
comes twice, and what it is offered after the lock is not part of its history. -/
def refilledCalls : List (HostCall Nat) :=
  [.startLifecycle, .openRegistry (.lifecycle 0), .openRegistry (.lifecycle 0),
    .add 0 ⟨"clock", .any, 1⟩, .clear 0, .add 0 ⟨"store", .any, 2⟩, .add 1 ⟨"clock", .any, 3⟩,
    .add 0 ⟨"clock", .any, 4⟩, .add 0 ⟨"store", .any, 2⟩, .lock 0, .add 0 ⟨"store", .any, 5⟩]

theorem registry_groups_history_refilled :
    ∃ host registry, ({} : Host Nat).run? refilledCalls = some host ∧
      host.registries[0]? = some registry ∧
      history 0 (refilledCalls.zip (({} : Host Nat).replies refilledCalls)) =
        [⟨"store", .any, 2⟩, ⟨"clock", .any, 4⟩, ⟨"store", .any, 2⟩] ∧
      registry.catalog.contracts = ["store", "clock"] ∧ registry.catalog.size = 3 ∧
      registry.catalog.candidates "store" =
        (history 0 (refilledCalls.zip (({} : Host Nat).replies refilledCalls))).filter
          (·.contract = "store") :=
  ⟨_, _, rfl, rfl, rfl, rfl, rfl, (registry_groups_history rfl rfl).2.2.1 "store"⟩

end PluginHost.Host
