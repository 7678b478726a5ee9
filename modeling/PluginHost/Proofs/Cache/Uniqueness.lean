import PluginHost.Proofs.Cache.Coherence

/-!
# What a key meets at most once

The equality of a strategy is only ever asked about the oldest living owner of a slot. That this is
enough rests on two facts which every world keeps, whatever owners died meanwhile: the owners of a
slot are all equal, and those of two live slots are not, wherever the slots are. So a living key
owns one slot at most, a probe matches one at most, and no two entries have equal keys.
-/
namespace PluginHost.Cache

variable {H K V : Type}

/-- No two elements of a list meet the condition if related ones never do. -/
theorem length_filter_le_one {β : Type} {R : β → β → Prop} {condition : β → Bool}
    {elements : List β} (h : elements.Pairwise R)
    (hnever : ∀ first ∈ elements, ∀ second ∈ elements, R first second →
      condition first = true → condition second = false) :
    (elements.filter condition).length ≤ 1 := by
  match hfilter : elements.filter condition with
  | [] => exact Nat.zero_le 1
  | [only] => exact Nat.le_refl 1
  | first :: second :: others =>
    have hpairs := h.filter condition
    rw [hfilter] at hpairs
    have hfirst : first ∈ elements.filter condition := hfilter ▸ List.mem_cons_self
    have hsecond : second ∈ elements.filter condition :=
      hfilter ▸ List.mem_cons_of_mem _ List.mem_cons_self
    have hnot := hnever first (List.mem_of_mem_filter hfirst) second
      (List.mem_of_mem_filter hsecond) ((List.pairwise_cons.mp hpairs).1 second List.mem_cons_self)
      (List.of_mem_filter hfirst)
    rw [List.of_mem_filter hsecond] at hnot
    cases hnot

section Coherent

variable {strategy : KeyStrategy H K} {alive : K → Bool} {cache : Cache H K V} {key : K}

/-- At most one slot belongs to a key, also if slots with the same contents are counted apart. -/
theorem Coherent.length_filter_le_one (hc : strategy.Consistent)
    (h : Coherent strategy alive cache) (key : K) {belongs : Slot K V → Bool}
    (hbelongs : ∀ slot ∈ cache.slots, belongs slot = true →
      Holds strategy alive cache key slot) :
    (cache.slots.filter belongs).length ≤ 1 := by
  refine Cache.length_filter_le_one (List.pairwise_filter.mp h.apart)
    fun first hfirst second hsecond hapart hbelong => ?_
  by_contra hboth
  rw [Bool.not_eq_false] at hboth
  have hone := hbelongs first hfirst hbelong
  have hother := hbelongs second hsecond hboth
  obtain ⟨x, hx, hxkey⟩ := hone.equal
  obtain ⟨y, hy, hykey⟩ := hother.equal
  have hxy := hapart hone.live hother.live x hx y hy
  rw [hc.trans hxkey (hc.symm hykey)] at hxy
  cases hxy

theorem Holds.of_answers {slot : Slot K V} (hslot : slot ∈ cache.slots)
    (hanswers : slot.answers strategy alive key = true) : Holds strategy alive cache key slot := by
  obtain ⟨owner, howner, halive, hequal⟩ := Slot.exists_owner_of_answers hanswers
  exact ⟨hslot, Slot.isLive_iff.mpr ⟨owner, howner, halive⟩, owner, howner, hequal⟩

theorem Coherent.entries_apart (h : Coherent strategy alive cache) :
    (cache.entries alive).Pairwise fun first second =>
      strategy.equal first.1 second.1 = false := by
  have howner {slot : Slot K V} {entry : K × V}
      (hentry : (slot.liveOwner? alive).map (·, slot.value) = some entry) :
      entry.1 ∈ slot.owners ∧ slot.isLive alive = true := by
    obtain ⟨owner, hfound, rfl⟩ := Option.map_eq_some_iff.mp hentry
    have hmem : owner ∈ slot.owners := List.mem_of_find?_eq_some hfound
    exact ⟨hmem, Slot.isLive_iff.mpr ⟨owner, hmem, List.find?_some hfound⟩⟩
  rw [entries, List.pairwise_filterMap]
  refine (List.pairwise_filter.mp h.apart).imp fun hapart first hfirst second hsecond => ?_
  obtain ⟨hx, hlive⟩ := howner hfirst
  obtain ⟨hy, hlive'⟩ := howner hsecond
  exact hapart hlive hlive' _ hx _ hy

end Coherent

namespace World

variable [DecidableEq H] [DecidableEq K]

/-- Equal keys lead to one slot, and a slot to equal keys. -/
structure Unrivalled (config : CacheConfig H K) (world : World H K V) : Prop where
  /-- This also holds of owners that are dead by now. -/
  alike : ∀ slot ∈ world.cache.slots, ∀ x ∈ slot.owners, ∀ y ∈ slot.owners,
    config.strategy.equal x y = true
  /-- The slots of all buckets are taken together. -/
  apart : (world.cache.slots.filter (·.isLive world.alive)).Pairwise fun first second =>
    ∀ x ∈ first.owners, ∀ y ∈ second.owners, config.strategy.equal x y = false
  owns_one : ∀ key, world.alive key = true →
    (world.cache.slots.filter (key ∈ ·.owners)).length ≤ 1
  entries_apart : (world.cache.entries world.alive).Pairwise fun first second =>
    config.strategy.equal first.1 second.1 = false
  matches_one : ∀ probe,
    (world.cache.slots.filter (·.answers config.strategy world.alive probe)).length ≤ 1

/-- No slot ever has a rival. Between the two halves of a memoized call there may be any moves, so
this holds also while a value is being made. -/
theorem slots_unrivalled (config : CacheConfig H K) (hc : config.strategy.Consistent)
    (moves : List (Move K V)) : (({} : World H K V).run config moves).Unrivalled config := by
  have horderly : (({} : World H K V).run config moves).Orderly config :=
    Orderly.start.run hc moves
  have hcoherent := horderly.coherent
  refine ⟨hcoherent.alike, hcoherent.apart, ?owns_one, hcoherent.entries_apart, ?matches_one⟩
  case owns_one =>
    intro key living
    refine hcoherent.length_filter_le_one hc key fun slot hslot howner => ?_
    exact .of_owner hc living hslot (of_decide_eq_true howner)
  case matches_one =>
    intro probe
    refine hcoherent.length_filter_le_one hc probe fun slot hslot hanswers => ?_
    exact .of_answers hslot hanswers

/-- Two memoized calls for equal keys, one within the other. The slot of the inner call is found by
the outer one, and keeps both keys when the inner key has died. All keys have the same hash. -/
theorem slots_unrivalled_nested :
    let config : CacheConfig KeyDigest KeyObject :=
      { strategy := KeyMatching.constantHash.strategy }
    let moves : List (Move KeyObject Nat) :=
      [.key (.birth ⟨0, "a"⟩), .key (.birth ⟨1, "a"⟩), .key (.birth ⟨2, "b"⟩),
        .call (.get ⟨0, "a"⟩), .call (.get ⟨1, "a"⟩), .settle ⟨1, "a"⟩ 3,
        .call (.put ⟨2, "b"⟩ 4), .settle ⟨0, "a"⟩ 5, .key (.death ⟨1, "a"⟩)]
    let world := ({} : World KeyDigest KeyObject Nat).run config moves
    config.strategy.Consistent ∧
      world.cache.slots = [⟨[⟨1, "a"⟩, ⟨0, "a"⟩], 3⟩, ⟨[⟨2, "b"⟩], 4⟩] ∧
      world.cache.entries world.alive = [(⟨0, "a"⟩, 3), (⟨2, "b"⟩, 4)] ∧
      world.Unrivalled config := by
  intro config moves world
  have hc : config.strategy.Consistent := KeyMatching.consistent (by decide) (by decide)
  exact ⟨hc, by decide, by decide, slots_unrivalled config hc moves⟩

end World

end PluginHost.Cache
