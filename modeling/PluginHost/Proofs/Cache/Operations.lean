import Mathlib.Data.List.Perm.Basic
import PluginHost.Cache.Basic
import PluginHost.Proofs.Cache.Slots

/-!
# What the operations of a cache do

Every operation that looks for a key first drops some dead slots and then works on one bucket. The
first half is the same for all of them and is described by `Tidied` and `Ready`; the second half by
what is written into the bucket. One lemma for each operation says so, and later modules rest on
these alone.
-/
namespace PluginHost.Cache

variable {H K V : Type}

/-! ## Looking through a bucket -/

section Lookup

variable {strategy : KeyStrategy H K} {alive : K → Bool} {probe : K}

/-- No slot answers to the probe. -/
def Misses (strategy : KeyStrategy H K) (alive : K → Bool) (probe : K)
    (slots : List (Slot K V)) : Prop :=
  ∀ slot ∈ slots, slot.answers strategy alive probe = false

/-- The first slot that answers to the probe, and the slots before and behind it. -/
structure Hits (strategy : KeyStrategy H K) (alive : K → Bool) (probe : K)
    (slots before : List (Slot K V)) (slot : Slot K V) (behind : List (Slot K V)) : Prop where
  split : slots = before ++ slot :: behind
  answers : slot.answers strategy alive probe = true
  first : Misses strategy alive probe before

theorem locate?_cases (strategy : KeyStrategy H K) (alive : K → Bool) (probe : K)
    (slots : List (Slot K V)) :
    (locate? strategy alive probe slots = none ∧ Misses strategy alive probe slots) ∨
      ∃ position, locate? strategy alive probe slots = some position ∧
        Hits strategy alive probe slots (slots.take position) (slots.get position)
          (slots.drop (position + 1)) := by
  cases hfound : locate? strategy alive probe slots with
  | none =>
    refine .inl ⟨rfl, fun slot hslot => ?_⟩
    simpa using List.findFinIdx?_eq_none_iff.mp hfound slot hslot
  | some position =>
    obtain ⟨hanswers, hfirst⟩ := List.findFinIdx?_eq_some_iff.mp hfound
    refine .inr ⟨position, rfl, by simp, hanswers, fun slot hslot => ?_⟩
    obtain ⟨i, hi, rfl⟩ := List.mem_take_iff_getElem.mp hslot
    have hlt : i < position.val := by omega
    simpa using hfirst ⟨i, by omega⟩ hlt

theorem misses_or_hits (strategy : KeyStrategy H K) (alive : K → Bool) (probe : K)
    (slots : List (Slot K V)) :
    Misses strategy alive probe slots ∨
      ∃ front slot behind, Hits strategy alive probe slots front slot behind := by
  rcases locate?_cases strategy alive probe slots with ⟨-, hmisses⟩ | ⟨_, -, hhits⟩
  · exact .inl hmisses
  · exact .inr ⟨_, _, _, hhits⟩

theorem locate?_value (strategy : KeyStrategy H K) (alive : K → Bool) (probe : K)
    (slots : List (Slot K V)) :
    (locate? strategy alive probe slots).map (fun position => (slots.get position).value) =
      (slots.find? (·.answers strategy alive probe)).map (·.value) := by
  rw [List.find?_eq_map_findFinIdx?_getElem, Option.map_map]
  rfl

theorem locate?_isSome (strategy : KeyStrategy H K) (alive : K → Bool) (probe : K)
    (slots : List (Slot K V)) :
    (locate? strategy alive probe slots).isSome =
      (slots.find? (·.answers strategy alive probe)).isSome := by
  rw [List.find?_eq_map_findFinIdx?_getElem, Option.isSome_map]
  rfl

theorem Misses.find? {slots : List (Slot K V)} (h : Misses strategy alive probe slots) :
    slots.find? (·.answers strategy alive probe) = none :=
  List.find?_eq_none.mpr fun slot hslot => by simp [h slot hslot]

theorem Hits.find? {slots before behind : List (Slot K V)} {slot : Slot K V}
    (h : Hits strategy alive probe slots before slot behind) :
    slots.find? (·.answers strategy alive probe) = some slot := by
  rw [h.split, List.find?_append, Misses.find? h.first]
  simp [h.answers]

theorem Hits.mem {slots before behind : List (Slot K V)} {slot : Slot K V}
    (h : Hits strategy alive probe slots before slot behind) : slot ∈ slots := by
  rw [h.split]
  simp

theorem Hits.of_eq {slots others before behind : List (Slot K V)} {slot : Slot K V}
    (h : Hits strategy alive probe slots before slot behind) (heq : slots = others) :
    Hits strategy alive probe others before slot behind := heq ▸ h

/-- What stands behind a gap once the last slot has moved into it. -/
def refill (slots : List (Slot K V)) : List (Slot K V) :=
  match slots.getLast? with
  | none => []
  | some last => last :: slots.dropLast

theorem refill_perm (slots : List (Slot K V)) : (refill slots).Perm slots := by
  rcases List.eq_nil_or_concat slots with rfl | ⟨front, last, rfl⟩
  · exact .refl _
  · simpa [refill] using (List.perm_append_singleton last front).symm

theorem refill_map (change : Slot K V → Slot K V) (slots : List (Slot K V)) :
    refill (slots.map change) = (refill slots).map change := by
  rcases List.eq_nil_or_concat slots with rfl | ⟨front, last, rfl⟩
  · rfl
  · simp [refill]

theorem swapRemove_eq (slots : List (Slot K V)) (position : Fin slots.length) :
    swapRemove slots position = slots.take position ++ refill (slots.drop (position + 1)) := by
  have hne : slots ≠ [] := List.ne_nil_of_length_pos (Fin.pos position)
  have hset : slots.set position (slots.getLast hne) =
      slots.take position ++ slots.getLast hne :: slots.drop (position + 1) := by
    rw [List.set_eq_take_append_cons_drop, if_pos position.isLt]
  rw [swapRemove, hset, List.dropLast_append_of_ne_nil (List.cons_ne_nil _ _)]
  congr 1
  -- the last slot fills the gap, unless it leaves the gap itself
  rcases List.eq_nil_or_concat (slots.drop (position + 1)) with hbehind | ⟨front, last, hbehind⟩
  · rw [hbehind]
    rfl
  · rw [List.concat_eq_append] at hbehind
    have hsplit : slots.take (position + 1) ++ (front ++ [last]) = slots := by
      rw [← hbehind, List.take_append_drop]
    have hlast : slots.getLast? = some last := by
      rw [← hsplit, ← List.append_assoc, List.getLast?_concat]
    rw [List.getLast?_eq_some_getLast hne, Option.some.injEq] at hlast
    rw [hbehind, hlast, ← List.cons_append, List.dropLast_concat]
    simp [refill]

end Lookup

/-! ## Dropping dead slots -/

/-- The buckets are tidy, and the number of stored slots is right. -/
structure WellFormed (cache : Cache H K V) : Prop where
  tidy : Bucket.Tidy cache.buckets
  stored : cache.stored = cache.slotCount

theorem WellFormed.empty : WellFormed ({} : Cache H K V) := ⟨.nil, rfl⟩

theorem WellFormed.stored_eq {cache : Cache H K V} (h : cache.WellFormed) :
    cache.stored = cache.slots.length := by
  rw [h.stored, slotCount, Bucket.slotCount_eq_length, slots]

variable [DecidableEq H]

/-- The slots that a hash leads to. -/
def shelf (hash : H) (cache : Cache H K V) : List (Slot K V) := Bucket.slotsAt hash cache.buckets

theorem WellFormed.mem_slots_iff {cache : Cache H K V} (h : cache.WellFormed) {slot : Slot K V} :
    slot ∈ cache.slots ↔ ∃ hash, slot ∈ cache.shelf hash :=
  Bucket.mem_slots_iff h.tidy

/-- `after` is `before` without some slots, all of them dead. -/
structure Tidied (alive : K → Bool) (before after : Cache H K V)
    (released : List (Slot K V)) : Prop where
  wellFormed : after.WellFormed
  sublist : ∀ hash, (after.shelf hash).Sublist (before.shelf hash)
  slots : before.slots.Perm (after.slots ++ released)
  dead : ∀ slot ∈ released, slot.isLive alive = false

/-- Besides, the slots that the hash leads to are live now. -/
structure Ready (alive : K → Bool) (hash : H) (before after : Cache H K V)
    (released : List (Slot K V)) : Prop extends Tidied alive before after released where
  live : ∀ slot ∈ after.shelf hash, slot.isLive alive = true

namespace Tidied

variable {alive : K → Bool} {before middle after : Cache H K V}
  {released more : List (Slot K V)}

theorem refl (h : before.WellFormed) : Tidied alive before before [] :=
  ⟨h, fun _ => .refl _, by simp, by simp⟩

theorem trans (h : Tidied alive before middle released) (h' : Tidied alive middle after more) :
    Tidied alive before after (released ++ more) where
  wellFormed := h'.wellFormed
  sublist := fun hash => (h'.sublist hash).trans (h.sublist hash)
  slots := by
    calc before.slots
      _ |>.Perm (middle.slots ++ released) := h.slots
      _ |>.Perm ((after.slots ++ more) ++ released) := h'.slots.append_right _
      _ |>.Perm (after.slots ++ (released ++ more)) := by
        rw [List.append_assoc]
        exact List.perm_append_comm.append_left _
  dead := fun slot hslot =>
    (List.mem_append.mp hslot).elim (h.dead slot) (h'.dead slot)

theorem mem (h : Tidied alive before after released) {slot : Slot K V}
    (hslot : slot ∈ after.slots) : slot ∈ before.slots :=
  h.slots.mem_iff.mpr (List.mem_append_left _ hslot)

/-- The live slots are the same. -/
theorem live_perm (h : Tidied alive before after released) :
    (before.slots.filter (·.isLive alive)).Perm (after.slots.filter (·.isLive alive)) := by
  have hnone : released.filter (·.isLive alive) = [] :=
    List.filter_eq_nil_iff.mpr fun slot hslot => by simp [h.dead slot hslot]
  simpa [List.filter_append, hnone] using h.slots.filter (·.isLive alive)

end Tidied

/-- A slot that is found was there before. -/
theorem Ready.mem_of_hits {strategy : KeyStrategy H K} {alive : K → Bool} {probe : K} {hash : H}
    {before middle : Cache H K V} {released front behind : List (Slot K V)} {slot : Slot K V}
    (h : Ready alive hash before middle released)
    (hits : Hits strategy alive probe (middle.shelf hash) front slot behind) :
    slot ∈ before.slots :=
  h.mem (h.wellFormed.mem_slots_iff.mpr ⟨hash, hits.mem⟩)

theorem tidied_sweep {cache : Cache H K V} (h : cache.WellFormed) (alive : K → Bool) :
    Tidied alive cache (cache.sweep alive).cache (cache.sweep alive).released where
  wellFormed := by
    refine ⟨h.tidy.surviving alive, ?_⟩
    have hcount := slotCount_sweep alive cache
    have hstored : (cache.sweep alive).cache.stored =
        cache.stored - (cache.sweep alive).released.length := rfl
    rw [hstored, h.stored]
    omega
  sublist := fun hash => by
    simp only [shelf, sweep]
    rw [Bucket.slotsAt_surviving h.tidy alive hash]
    exact List.filter_sublist
  slots := by
    simp only [slots, sweep]
    rw [Bucket.flatMap_surviving, Bucket.flatMap_dead]
    exact (List.filter_append_perm _ _).symm
  dead := fun slot hslot => by
    simp only [sweep, Bucket.flatMap_dead] at hslot
    simpa using (List.mem_filter.mp hslot).2

/-- Counting operations is no matter of the slots. -/
theorem Tidied.counted {cache : Cache H K V} (h : cache.WellFormed) (alive : K → Bool)
    (count : Nat) : Tidied alive cache { cache with sinceSweep := count } [] :=
  ⟨⟨h.tidy, h.stored⟩, fun _ => .refl _,
    by rw [List.append_nil]; exact .refl cache.slots, by simp⟩

theorem tidied_countOperation {cache : Cache H K V} (h : cache.WellFormed) (floor : UInt64)
    (alive : K → Bool) :
    Tidied alive cache (cache.countOperation floor alive).cache
      (cache.countOperation floor alive).released := by
  have hcounted := Tidied.counted h alive (cache.sinceSweep + 1)
  simp only [countOperation]
  split
  · exact hcounted.trans (tidied_sweep hcounted.wellFormed alive)
  · exact hcounted

/-! ## Writing into a bucket -/

theorem slots_perm_shelf (hash : H) (cache : Cache H K V) :
    cache.slots.Perm (cache.shelf hash ++ (Bucket.without hash cache.buckets).flatMap (·.slots)) :=
  Bucket.perm_slotsAt_append hash cache.buckets

theorem slots_setBucket_perm (hash : H) (slots : List (Slot K V)) (cache : Cache H K V) :
    (cache.setBucket hash slots).slots.Perm
      (slots ++ (Bucket.without hash cache.buckets).flatMap (·.slots)) :=
  Bucket.perm_setSlots hash slots cache.buckets

theorem shelf_setBucket_self {cache : Cache H K V} (h : cache.WellFormed) (hash : H)
    (slots : List (Slot K V)) : (cache.setBucket hash slots).shelf hash = slots :=
  Bucket.slotsAt_setSlots_self h.tidy hash slots

theorem shelf_setBucket_ne {hash other : H} (hne : other ≠ hash) (slots : List (Slot K V))
    (cache : Cache H K V) : (cache.setBucket hash slots).shelf other = cache.shelf other :=
  Bucket.slotsAt_setSlots_ne hne slots cache.buckets

/-- A write is well formed if the number of stored slots is corrected by what it added. -/
theorem WellFormed.write {cache : Cache H K V} (h : cache.WellFormed) (hash : H)
    (slots : List (Slot K V)) {stored : Nat}
    (hstored : stored + (cache.shelf hash).length = cache.stored + slots.length) :
    WellFormed { cache.setBucket hash slots with stored := stored } := by
  refine ⟨h.tidy.setSlots hash slots, ?_⟩
  have hmoved := Bucket.slotCount_setSlots hash slots cache.buckets
  have hcount := h.stored
  simp only [slotCount, setBucket, shelf] at *
  omega

theorem shelf_refresh_self {cache : Cache H K V} (h : cache.WellFormed) (alive : K → Bool)
    (hash : H) :
    (cache.refresh alive hash).cache.shelf hash =
      (cache.shelf hash).filter (·.isLive alive) :=
  shelf_setBucket_self h hash _

theorem shelf_refresh_ne {hash other : H} (hne : other ≠ hash) (alive : K → Bool)
    (cache : Cache H K V) : (cache.refresh alive hash).cache.shelf other = cache.shelf other :=
  shelf_setBucket_ne hne _ cache

theorem tidied_refresh {cache : Cache H K V} (h : cache.WellFormed) (alive : K → Bool) (hash : H) :
    Tidied alive cache (cache.refresh alive hash).cache (cache.refresh alive hash).released where
  wellFormed := by
    -- what `stored` loses is what the bucket loses, which was stored before
    have hsplit := Bucket.length_live_add_length_dead alive (cache.shelf hash)
    have hperm := (slots_perm_shelf hash cache).length_eq
    refine h.write hash _ ?_
    simp only [shelf] at *
    rw [h.stored_eq]
    simp only [List.length_append] at hperm
    omega
  sublist := fun other => by
    by_cases hsame : other = hash
    · subst hsame
      rw [shelf_refresh_self h]
      exact List.filter_sublist
    · rw [shelf_refresh_ne hsame]
  slots := by
    have hpart : (cache.shelf hash).Perm ((cache.shelf hash).filter (·.isLive alive) ++
        (cache.shelf hash).filter (!·.isLive alive)) := (List.filter_append_perm _ _).symm
    calc cache.slots
      _ |>.Perm (cache.shelf hash ++ (Bucket.without hash cache.buckets).flatMap (·.slots)) :=
        slots_perm_shelf hash cache
      _ |>.Perm (((cache.shelf hash).filter (·.isLive alive) ++
            (cache.shelf hash).filter (!·.isLive alive)) ++
            (Bucket.without hash cache.buckets).flatMap (·.slots)) := hpart.append_right _
      _ |>.Perm (((cache.shelf hash).filter (·.isLive alive) ++
            (Bucket.without hash cache.buckets).flatMap (·.slots)) ++
            (cache.shelf hash).filter (!·.isLive alive)) := by
        rw [List.append_assoc, List.append_assoc]
        exact List.perm_append_comm.append_left _
      _ |>.Perm ((cache.refresh alive hash).cache.slots ++ (cache.refresh alive hash).released) :=
        (slots_setBucket_perm hash _ cache).symm.append_right _
  dead := fun slot hslot => by
    simp only [refresh] at hslot
    simpa using (List.mem_filter.mp hslot).2

/-- What a refresh answers with is left in the bucket, and all of it is live. -/
theorem ready_refresh {cache : Cache H K V} (h : cache.WellFormed) (alive : K → Bool) (hash : H) :
    Ready alive hash cache (cache.refresh alive hash).cache (cache.refresh alive hash).released ∧
      (cache.refresh alive hash).answer = (cache.refresh alive hash).cache.shelf hash := by
  refine ⟨⟨tidied_refresh h alive hash, fun slot hslot => ?_⟩, (shelf_refresh_self h ..).symm⟩
  rw [shelf_refresh_self h] at hslot
  exact (List.mem_filter.mp hslot).2

theorem ready_touch {cache : Cache H K V} (h : cache.WellFormed) (floor : UInt64)
    (alive : K → Bool) (hash : H) :
    Ready alive hash cache (cache.touch floor alive hash).cache
        (cache.touch floor alive hash).released ∧
      (cache.touch floor alive hash).answer = (cache.touch floor alive hash).cache.shelf hash := by
  have hticked := tidied_countOperation h floor alive
  obtain ⟨hready, hanswer⟩ := ready_refresh hticked.wellFormed alive hash
  exact ⟨⟨hticked.trans hready.toTidied, hready.live⟩, hanswer⟩

/-! ## One lemma for each operation

Where a slot is written, `middle` is the cache in which it is looked for. -/

section Operations

variable (config : CacheConfig H K) {cache : Cache H K V} (alive : K → Bool)

theorem get_ready (h : cache.WellFormed) (probe : K) :
    Ready alive (config.strategy.hash probe) cache (cache.get config alive probe).cache
        (cache.get config alive probe).released ∧
      (cache.get config alive probe).answer =
        (((cache.get config alive probe).cache.shelf (config.strategy.hash probe)).find?
          (·.answers config.strategy alive probe)).map (·.value) := by
  obtain ⟨hready, hanswer⟩ :=
    ready_touch h config.sweepFloor alive (config.strategy.hash probe)
  refine ⟨hready, ?_⟩
  simp only [get, Outcome.map]
  rw [← hanswer]
  exact locate?_value ..

theorem contains_ready (h : cache.WellFormed) (probe : K) :
    Ready alive (config.strategy.hash probe) cache (cache.contains config alive probe).cache
        (cache.contains config alive probe).released ∧
      (cache.contains config alive probe).answer =
        (((cache.contains config alive probe).cache.shelf (config.strategy.hash probe)).find?
          (·.answers config.strategy alive probe)).isSome := by
  obtain ⟨hready, hanswer⟩ :=
    ready_touch h config.sweepFloor alive (config.strategy.hash probe)
  refine ⟨hready, ?_⟩
  simp only [contains, Outcome.map]
  rw [locate?_isSome, hanswer]

/-- A removal that finds nothing is a lookup; one that finds a slot takes it out of its bucket, and
the last slot of the bucket moves into its place. -/
theorem remove_refills (h : cache.WellFormed) (probe : K) :
    ∃ middle, Ready alive (config.strategy.hash probe) cache middle
        (cache.remove config alive probe).released ∧
      (Misses config.strategy alive probe (middle.shelf (config.strategy.hash probe)) ∧
          (cache.remove config alive probe).answer = none ∧
          (cache.remove config alive probe).cache = middle ∨
        ∃ before slot behind,
          Hits config.strategy alive probe (middle.shelf (config.strategy.hash probe))
            before slot behind ∧
          (cache.remove config alive probe).answer = some slot.value ∧
          (cache.remove config alive probe).cache =
            { middle.setBucket (config.strategy.hash probe) (before ++ refill behind) with
              stored := middle.stored - 1 }) := by
  obtain ⟨hready, hanswer⟩ :=
    ready_touch h config.sweepFloor alive (config.strategy.hash probe)
  -- `touch` answers with the bucket as it left it, so a position there is one in the bucket
  rcases locate?_cases config.strategy alive probe
    (cache.touch config.sweepFloor alive (config.strategy.hash probe)).answer with
    ⟨hnone, hmisses⟩ | ⟨position, hsome, hhits⟩
  · refine ⟨(cache.touch config.sweepFloor alive (config.strategy.hash probe)).cache, ?_,
      .inl ⟨hanswer ▸ hmisses, ?_, ?_⟩⟩
    · simpa only [remove, hnone, Outcome.map] using hready
    · simp only [remove, hnone, Outcome.map]
    · simp only [remove, hnone, Outcome.map]
  · refine ⟨(cache.touch config.sweepFloor alive (config.strategy.hash probe)).cache, ?_,
      .inr ⟨_, _, _, hhits.of_eq hanswer, ?_, ?_⟩⟩
    · simpa only [remove, hsome] using hready
    · simp only [remove, hsome]
      rfl
    · simp only [remove, hsome, swapRemove_eq]

/-- The same, up to the order of what remains in the bucket. -/
theorem remove_cases (h : cache.WellFormed) (probe : K) :
    ∃ middle, Ready alive (config.strategy.hash probe) cache middle
        (cache.remove config alive probe).released ∧
      (Misses config.strategy alive probe (middle.shelf (config.strategy.hash probe)) ∧
          (cache.remove config alive probe).answer = none ∧
          (cache.remove config alive probe).cache = middle ∨
        ∃ before slot behind rest,
          Hits config.strategy alive probe (middle.shelf (config.strategy.hash probe))
            before slot behind ∧
          rest.Perm (before ++ behind) ∧
          (cache.remove config alive probe).answer = some slot.value ∧
          (cache.remove config alive probe).cache =
            { middle.setBucket (config.strategy.hash probe) rest with
              stored := middle.stored - 1 }) := by
  obtain ⟨middle, hready, hmissed | ⟨before, slot, behind, hhits, hanswer, hcache⟩⟩ :=
    remove_refills config alive h probe
  · exact ⟨middle, hready, .inl hmissed⟩
  · exact ⟨middle, hready, .inr ⟨before, slot, behind, _, hhits, (refill_perm behind).append_left _,
      hanswer, hcache⟩⟩

theorem refused_remove (probe : K) : (cache.remove config alive probe).refused = [] := by
  simp only [remove]
  split <;> rfl

variable [DecidableEq K]

/-- A value is stored in a new slot, or in the place of another one. -/
theorem put_cases (h : cache.WellFormed) (key : K) (value : V) :
    ∃ middle, Ready alive (config.strategy.hash key) cache middle
        (cache.put config alive key value).released ∧
      (Misses config.strategy alive key (middle.shelf (config.strategy.hash key)) ∧
          (cache.put config alive key value).answer = none ∧
          (cache.put config alive key value).cache =
            middle.push (config.strategy.hash key) ⟨[key], value⟩ ∨
        ∃ before slot behind,
          Hits config.strategy alive key (middle.shelf (config.strategy.hash key))
            before slot behind ∧
          (cache.put config alive key value).answer = some slot.value ∧
          (cache.put config alive key value).cache =
            middle.setBucket (config.strategy.hash key)
              (before ++ { slot.addOwner alive key with value := value } :: behind)) := by
  obtain ⟨hready, hanswer⟩ :=
    ready_touch h config.sweepFloor alive (config.strategy.hash key)
  rcases locate?_cases config.strategy alive key
    (cache.touch config.sweepFloor alive (config.strategy.hash key)).answer with
    ⟨hnone, hmisses⟩ | ⟨position, hsome, hhits⟩
  · refine ⟨(cache.touch config.sweepFloor alive (config.strategy.hash key)).cache, ?_,
      .inl ⟨hanswer ▸ hmisses, ?_, ?_⟩⟩
    · simpa only [put, hnone] using hready
    · simp only [put, hnone]
    · simp only [put, hnone]
  · refine ⟨(cache.touch config.sweepFloor alive (config.strategy.hash key)).cache, ?_,
      .inr ⟨_, _, _, hhits.of_eq hanswer, ?_, ?_⟩⟩
    · simpa only [put, hsome] using hready
    · simp only [put, hsome]
      rfl
    · simp only [put, hsome]
      rw [List.set_eq_take_append_cons_drop, if_pos position.isLt]
      rfl

/-- A living key is never refused. -/
theorem refused_put (key : K) (value : V) : (cache.put config alive key value).refused = [] := by
  simp only [put]
  split <;> rfl

/-- What was made is stored in a new slot, or it is refused and the key joins a slot. -/
theorem settle_cases (h : cache.WellFormed) (key : K) (made : V) :
    ∃ middle, Ready alive (config.strategy.hash key) cache middle
        (cache.settle config alive key made).released ∧
      (Misses config.strategy alive key (middle.shelf (config.strategy.hash key)) ∧
          (cache.settle config alive key made).answer = made ∧
          (cache.settle config alive key made).refused = [] ∧
          (cache.settle config alive key made).cache =
            middle.push (config.strategy.hash key) ⟨[key], made⟩ ∨
        ∃ before slot behind,
          Hits config.strategy alive key (middle.shelf (config.strategy.hash key))
            before slot behind ∧
          (cache.settle config alive key made).answer = slot.value ∧
          (cache.settle config alive key made).refused = [made] ∧
          (cache.settle config alive key made).cache =
            middle.setBucket (config.strategy.hash key)
              (before ++ slot.addOwner alive key :: behind)) := by
  obtain ⟨hready, hanswer⟩ := ready_refresh h alive (config.strategy.hash key)
  rcases locate?_cases config.strategy alive key
    (cache.refresh alive (config.strategy.hash key)).answer with
    ⟨hnone, hmisses⟩ | ⟨position, hsome, hhits⟩
  · refine ⟨(cache.refresh alive (config.strategy.hash key)).cache, ?_,
      .inl ⟨hanswer ▸ hmisses, ?_, ?_, ?_⟩⟩
    · simpa only [settle, hnone] using hready
    · simp only [settle, hnone]
    · simp only [settle, hnone]
      rfl
    · simp only [settle, hnone]
  · refine ⟨(cache.refresh alive (config.strategy.hash key)).cache, ?_,
      .inr ⟨_, _, _, hhits.of_eq hanswer, ?_, ?_, ?_⟩⟩
    · simpa only [settle, hsome] using hready
    · simp only [settle, hsome]
      rfl
    · simp only [settle, hsome]
    · simp only [settle, hsome]
      rw [List.set_eq_take_append_cons_drop, if_pos position.isLt]
      rfl

end Operations

end PluginHost.Cache
