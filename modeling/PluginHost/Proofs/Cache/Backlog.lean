import PluginHost.Proofs.Cache.Exchange

/-!
# How many dead slots there are

A full sweep is due when the operations since the last one are as many as the stored slots. An
operation that creates a slot moves both numbers on, so it brings no sweep nearer: only the others
do. A tally counts what was created and what is gone since the last full sweep, and from it the
number of stored slots is known at any time.
-/
namespace PluginHost.Cache

variable {H K V : Type}

/-! ## When a full sweep is due -/

section Due

variable {floor : UInt64} {alive : K → Bool} {cache : Cache H K V}

/-- Whether the next counted operation sweeps. -/
def isDue (floor : UInt64) (cache : Cache H K V) : Bool :=
  max cache.stored floor.toNat ≤ cache.sinceSweep + 1

theorem isDue_iff : cache.isDue floor = true ↔
    max cache.stored floor.toNat ≤ cache.sinceSweep + 1 :=
  decide_eq_true_iff

theorem sinceSweep_of_due (h : cache.isDue floor = true) :
    (cache.countOperation floor alive).cache.sinceSweep = 0 := by
  simp only [countOperation, if_pos (isDue_iff.mp h)]
  rfl

theorem countOperation_of_not_due (h : ¬cache.isDue floor = true) :
    cache.countOperation floor alive =
      { answer := (), cache := { cache with sinceSweep := cache.sinceSweep + 1 } } := by
  simp only [countOperation, if_neg (mt isDue_iff.mpr h)]

/-- A full sweep releases every dead slot. -/
theorem length_released_sweep (alive : K → Bool) (cache : Cache H K V) :
    cache.slots.countP (·.isLive alive) + (cache.sweep alive).released.length =
      cache.slots.length := by
  have hreleased : (cache.sweep alive).released = cache.slots.filter (!·.isLive alive) :=
    Bucket.flatMap_dead alive cache.buckets
  have hsplit := Bucket.length_live_add_length_dead alive cache.slots
  rw [hreleased, List.countP_eq_length_filter]
  exact hsplit

variable [DecidableEq H]

/-- After a full sweep there is nothing left to release in the bucket that is touched. -/
theorem length_released_touch (alive : K → Bool) (h : cache.WellFormed)
    (hdue : cache.isDue floor = true) (hash : H) :
    cache.slots.countP (·.isLive alive) + (cache.touch floor alive hash).released.length =
      cache.slots.length := by
  have hcounted := Tidied.counted h alive (cache.sinceSweep + 1)
  have hsweep := tidied_sweep hcounted.wellFormed alive
  have hticked : cache.countOperation floor alive =
      { answer := (),
        cache := (sweep alive { cache with sinceSweep := cache.sinceSweep + 1 }).cache
        released := (sweep alive { cache with sinceSweep := cache.sinceSweep + 1 }).released
        events := (cache.countOperation floor alive).events } := by
    simp only [countOperation, if_pos (isDue_iff.mp hdue)]
  -- the sweep filtered this bucket with the others
  have hnone : ((cache.countOperation floor alive).cache.refresh alive hash).released = [] := by
    rw [hticked]
    refine List.filter_eq_nil_iff.mpr fun slot hslot => ?_
    have hlive : slot ∈ (Bucket.slotsAt hash cache.buckets).filter (·.isLive alive) :=
      Bucket.slotsAt_surviving h.tidy alive hash ▸ hslot
    simp [(List.mem_filter.mp hlive).2]
  simp only [touch, hnone, List.append_nil]
  rw [hticked]
  exact length_released_sweep alive { cache with sinceSweep := cache.sinceSweep + 1 }

/-- Where no sweep is due, an empty bucket has nothing to release. -/
theorem released_touch_of_empty (alive : K → Bool) {hash : H} (hdue : ¬cache.isDue floor = true)
    (hempty : cache.shelf hash = []) : (cache.touch floor alive hash).released = [] := by
  have hslots : Bucket.slotsAt hash cache.buckets = [] := hempty
  simp only [touch, countOperation_of_not_due hdue, refresh, hslots, List.filter_nil,
    List.append_nil]

variable {config : CacheConfig H K} {probe : K}

theorem sinceSweep_remove :
    (cache.remove config alive probe).cache.sinceSweep =
      (cache.countOperation config.sweepFloor alive).cache.sinceSweep := by
  simp only [remove]
  split <;> rfl

theorem released_remove :
    (cache.remove config alive probe).released =
      (cache.touch config.sweepFloor alive (config.strategy.hash probe)).released := by
  simp only [remove]
  split <;> rfl

variable [DecidableEq K] {key : K} {value : V}

theorem sinceSweep_put :
    (cache.put config alive key value).cache.sinceSweep =
      (cache.countOperation config.sweepFloor alive).cache.sinceSweep := by
  simp only [put]
  split <;> rfl

theorem released_put :
    (cache.put config alive key value).released =
      (cache.touch config.sweepFloor alive (config.strategy.hash key)).released := by
  simp only [put]
  split <;> rfl

/-- A value under a living key whose bucket is empty gets a slot of its own. Either everything was
swept before that, or nothing was. -/
theorem put_of_empty_bucket (value : V) (h : cache.WellFormed) (hliving : alive key = true)
    (hempty : cache.shelf (config.strategy.hash key) = []) :
    ((cache.put config alive key value).cache.slots.filter (·.isLive alive)).Perm
        (⟨[key], value⟩ :: cache.slots.filter (·.isLive alive)) ∧
      (∀ hash, hash ≠ config.strategy.hash key →
        ((cache.put config alive key value).cache.shelf hash).Sublist (cache.shelf hash)) ∧
      (cache.put config alive key value).cache.stored =
        (if cache.isDue config.sweepFloor then cache.slots.countP (·.isLive alive)
          else cache.stored) + 1 ∧
      (cache.put config alive key value).cache.sinceSweep =
        if cache.isDue config.sweepFloor then 0 else cache.sinceSweep + 1 := by
  obtain ⟨middle, hready, ⟨-, -, hcache⟩ | ⟨front, slot, behind, hhits, -⟩⟩ :=
    put_cases config alive h key value
  · have hnew : (⟨[key], value⟩ : Slot K V).isLive alive = true :=
      Slot.isLive_singleton hliving
    have hlive := live_added (config.strategy.hash key) hready.toTidied hnew
    have hpush := (slots_push (config.strategy.hash key) ⟨[key], value⟩ middle).length_eq
    have hmiddle := hready.slots.length_eq
    have hwell : (cache.put config alive key value).cache.WellFormed :=
      (change_put h hliving value).wellFormed
    have hafter := hwell.stored_eq
    have hbefore := h.stored_eq
    rw [List.length_append, released_put] at hmiddle
    refine ⟨hcache ▸ hlive, fun hash hne => ?_, ?_, ?_⟩
    · rw [hcache]
      exact (shelf_setBucket_ne hne _ middle).symm ▸ hready.sublist hash
    · rw [hafter, hcache, hpush, List.length_cons]
      -- after a sweep only live slots are left, and without one all are
      by_cases hdue : cache.isDue config.sweepFloor = true
      · have hreleased := length_released_touch alive h hdue (config.strategy.hash key)
        rw [if_pos hdue]
        omega
      · have hreleased := released_touch_of_empty alive hdue hempty
        rw [hreleased, List.length_nil] at hmiddle
        rw [if_neg hdue]
        omega
    · rw [sinceSweep_put]
      by_cases hdue : cache.isDue config.sweepFloor = true
      · rw [if_pos hdue, sinceSweep_of_due hdue]
      · rw [if_neg hdue, countOperation_of_not_due hdue]
  · have hslot := (hready.sublist _).subset hhits.mem
    rw [hempty] at hslot
    cases hslot

theorem sinceSweep_settle :
    (cache.settle config alive key value).cache.sinceSweep = cache.sinceSweep := by
  simp only [settle]
  split <;> rfl

end Due

/-! ## The pace of a move -/

namespace World

/-- The number of live slots. -/
def liveCount (world : World H K V) : Nat := world.cache.slots.countP (·.isLive world.alive)

theorem liveCount_eq_length (world : World H K V) :
    world.liveCount = (world.cache.slots.filter (·.isLive world.alive)).length :=
  List.countP_eq_length_filter

/-- Whether a move counts as an operation. -/
def counts (world : World H K V) : Move K V → Bool
  | .call (.put key _) => world.alive key
  | .call (.putWeak key? _) => key?.any world.alive
  | .call (.get _) | .call (.contains _) | .call (.remove _) => true
  | _ => false

/-- The number of slots that a move keeps if it sweeps everything. -/
def keptBy (floor : UInt64) (world : World H K V) : Move K V → Option Nat
  | .call .size | .call .isEmpty | .call .purge => some world.liveCount
  | .call .clear => some 0
  | move => if world.counts move && world.cache.isDue floor then some world.liveCount else none

/-- A move sweeps everything, or it counts and no sweep was due, or it does not count. -/
inductive Paced (floor : UInt64) (world : World H K V) (move : Move K V)
    (outcome : Outcome H K V (Reply K V)) : Prop
  | swept (kept : Nat) (hkept : world.keptBy floor move = some kept)
      (hreleased : kept + outcome.released.length = world.cache.slots.length)
      (hcount : outcome.cache.sinceSweep = 0)
  | counted (hkept : world.keptBy floor move = none)
      (hcount : outcome.cache.sinceSweep = world.cache.sinceSweep + 1)
      (hdue : world.cache.sinceSweep + 1 < max world.cache.stored floor.toNat)
  | uncounted (hkept : world.keptBy floor move = none)
      (hcount : outcome.cache.sinceSweep = world.cache.sinceSweep)

/-- A full sweep keeps live slots only. -/
theorem keptBy_le {floor : UInt64} {world : World H K V} {move : Move K V} {kept : Nat}
    (h : world.keptBy floor move = some kept) : kept ≤ world.liveCount := by
  have hlive {other : Nat} (hother : some world.liveCount = some other) :
      other ≤ world.liveCount := Nat.le_of_eq (Option.some.inj hother).symm
  simp only [keptBy] at h
  split at h
  · exact hlive h
  · exact hlive h
  · exact hlive h
  · exact Option.some.inj h ▸ Nat.zero_le _
  · split at h
    · exact hlive h
    · cases h

variable [DecidableEq H] {config : CacheConfig H K} {world : World H K V}

/-- An operation that touches a bucket counts, and sweeps when it is due. -/
theorem paced_touch (h : world.cache.WellFormed) {move : Move K V}
    {outcome : Outcome H K V (Reply K V)} (hash : H)
    (hkept : world.keptBy config.sweepFloor move =
      if world.cache.isDue config.sweepFloor then some world.liveCount else none)
    (hreleased : outcome.released =
      (world.cache.touch config.sweepFloor world.alive hash).released)
    (hcount : outcome.cache.sinceSweep =
      (world.cache.countOperation config.sweepFloor world.alive).cache.sinceSweep) :
    Paced config.sweepFloor world move outcome := by
  by_cases hdue : world.cache.isDue config.sweepFloor = true
  · rw [if_pos hdue] at hkept
    refine .swept _ hkept ?_ (hcount.trans (sinceSweep_of_due hdue))
    rw [hreleased]
    exact length_released_touch _ h hdue hash
  · rw [if_neg hdue] at hkept
    rw [countOperation_of_not_due hdue] at hcount
    exact .counted hkept hcount (Nat.not_le.mp (mt isDue_iff.mpr hdue))

variable [DecidableEq K]

theorem paced_respond (config : CacheConfig H K) (h : world.cache.WellFormed) (move : Move K V) :
    Paced config.sweepFloor world move (world.respond config move) := by
  have hsweep : world.liveCount + (world.cache.sweep world.alive).released.length =
      world.cache.slots.length := length_released_sweep world.alive world.cache
  cases move with
  | key event => exact .uncounted rfl rfl
  | settle key made =>
    simp only [respond]
    split
    · exact .uncounted rfl sinceSweep_settle
    · exact .uncounted rfl rfl
  | call call =>
    cases call with
    | put key value =>
      simp only [respond, Call.perform]
      split
      · rename_i hliving
        refine paced_touch h (config.strategy.hash key) ?_ released_put sinceSweep_put
        simp only [keptBy, counts, hliving, Bool.true_and]
      · rename_i hliving
        refine .uncounted ?_ rfl
        simp only [keptBy, counts, hliving, Bool.false_and, Bool.false_eq_true, if_false]
    | putWeak key? value =>
      simp only [respond, Call.perform, putWeak]
      split
      · rename_i key hkey
        obtain ⟨rfl, hliving⟩ := Option.filter_eq_some_iff.mp hkey
        refine paced_touch h (config.strategy.hash key) ?_ released_put sinceSweep_put
        simp only [keptBy, counts, Option.any_some, hliving, Bool.true_and]
      · rename_i hkey
        refine .uncounted ?_ rfl
        have hdead : key?.any world.alive = false := by
          cases key? with
          | none => rfl
          | some key => simpa using hkey
        simp only [keptBy, counts, hdead, Bool.false_and, Bool.false_eq_true, if_false]
    | get probe => exact paced_touch h (config.strategy.hash probe) rfl rfl rfl
    | contains probe => exact paced_touch h (config.strategy.hash probe) rfl rfl rfl
    | remove probe =>
      exact paced_touch h (config.strategy.hash probe) rfl released_remove sinceSweep_remove
    | size => exact .swept _ rfl hsweep rfl
    | isEmpty => exact .swept _ rfl hsweep rfl
    | purge => exact .swept _ rfl hsweep rfl
    | clear => exact .swept 0 rfl (Nat.zero_add _) rfl
    | entries => exact .uncounted rfl rfl

end World

/-! ## A tally of slots -/

section Tally

variable [DecidableEq H] [DecidableEq K]

/-- The slots that a move created: the values that it handed in, of which nothing came back. -/
def createdBy (move : Move K V) (outcome : Outcome H K V (Reply K V)) : Nat :=
  (handedBy move outcome.answer).length -
    ((returnedBy outcome.answer).length + outcome.refused.length)

/-- The slots that a move removed: the values that came back, of which nothing was handed in. -/
def removedBy (move : Move K V) (outcome : Outcome H K V (Reply K V)) : Nat :=
  (returnedBy outcome.answer).length + outcome.refused.length -
    (handedBy move outcome.answer).length

/-- A world with a count of slots since the last full sweep. -/
structure Tally (H K V : Type) where
  world : World H K V := {}
  /-- The most live slots that were stored at one moment so far. -/
  peak : Nat := 0
  /-- The live slots that the last full sweep kept. -/
  kept : Nat := 0
  /-- The slots that were created since, by the sweeping operation itself or a later one. -/
  created : Nat := 0
  /-- The slots that were released or removed since. -/
  gone : Nat := 0

namespace Tally

variable (config : CacheConfig H K)

/-- Makes a move and counts. -/
def step (tally : Tally H K V) (move : Move K V) : Tally H K V :=
  let outcome := tally.world.respond config move
  let world := tally.world.step config move
  match tally.world.keptBy config.sweepFloor move with
  | some kept =>
    { world := world, peak := max tally.peak world.liveCount, kept := kept,
      created := createdBy move outcome, gone := removedBy move outcome }
  | none =>
    { world := world, peak := max tally.peak world.liveCount, kept := tally.kept,
      created := tally.created + createdBy move outcome,
      gone := tally.gone + outcome.released.length + removedBy move outcome }

/-- Makes moves in turn. -/
def run (tally : Tally H K V) (moves : List (Move K V)) : Tally H K V :=
  moves.foldl (step config) tally

/-- The tally of a run from the start. -/
def ofRun (moves : List (Move K V)) : Tally H K V := ({} : Tally H K V).run config moves

/-- Twice the most live slots, the floor, and one. -/
def bound (tally : Tally H K V) : Nat := 2 * tally.peak + config.sweepFloor.toNat + 1

@[simp] theorem run_singleton (tally : Tally H K V) (move : Move K V) :
    tally.run config [move] = tally.step config move := rfl

theorem step_world (tally : Tally H K V) (move : Move K V) :
    (tally.step config move).world = tally.world.step config move := by
  simp only [step]
  split <;> rfl

theorem step_peak (tally : Tally H K V) (move : Move K V) :
    (tally.step config move).peak = max tally.peak (tally.world.step config move).liveCount := by
  simp only [step]
  split <;> rfl

theorem run_world (tally : Tally H K V) (moves : List (Move K V)) :
    (tally.run config moves).world = tally.world.run config moves := by
  induction moves generalizing tally with
  | nil => rfl
  | cons move moves ih =>
    rw [World.run_cons, ← step_world]
    exact ih (tally.step config move)

theorem run_append (tally : Tally H K V) (first second : List (Move K V)) :
    tally.run config (first ++ second) = (tally.run config first).run config second :=
  List.foldl_append

variable {config}

/-- What holds of every tally. The count of operations stays behind the number of stored slots, or
below the floor, since otherwise a sweep would have started it anew. -/
structure Balanced (config : CacheConfig H K) (tally : Tally H K V) : Prop where
  wellFormed : tally.world.cache.WellFormed
  slots : tally.world.cache.slots.length + tally.gone = tally.kept + tally.created
  pace : tally.world.cache.sinceSweep = 0 ∨
    tally.world.cache.sinceSweep < max (tally.kept + tally.created) config.sweepFloor.toNat
  live : tally.world.liveCount ≤ tally.peak
  kept : tally.kept ≤ tally.peak

omit [DecidableEq H] [DecidableEq K] in
theorem Balanced.start : Balanced config ({} : Tally H K V) :=
  ⟨.empty, rfl, .inl rfl, Nat.le_refl 0, Nat.le_refl 0⟩

/-- A move changes the number of slots by what it creates, releases and removes. -/
theorem length_respond (config : CacheConfig H K) {world : World H K V}
    (h : world.cache.WellFormed) (move : Move K V) :
    (world.respond config move).cache.slots.length +
        (world.respond config move).released.length + removedBy move (world.respond config move) =
      world.cache.slots.length + createdBy move (world.respond config move) := by
  classical
  have hexchange : Exchange config world.alive world.cache move (world.respond config move) :=
    exchange_respond h move
  have hlength := hexchange.balanced.length_eq
  simp only [Outcome.destroyed, List.length_append, List.length_map] at hlength
  simp only [createdBy, removedBy]
  omega

theorem Balanced.step {tally : Tally H K V} (h : tally.Balanced config) (move : Move K V) :
    (tally.step config move).Balanced config := by
  have hwell : (tally.world.step config move).cache.WellFormed :=
    (World.change_respond h.wellFormed move).wellFormed
  have hlength := length_respond config h.wellFormed move
  have hslots := h.slots
  have hlive := h.live
  have hstored := h.wellFormed.stored_eq
  have hpace := World.paced_respond config h.wellFormed move
  have hcache : (tally.world.step config move).cache = (tally.world.respond config move).cache :=
    rfl
  cases hpace with
  | swept kept hkept hreleased hcount =>
    -- the tally starts anew from what the sweep kept
    have hfew : kept ≤ tally.world.liveCount := World.keptBy_le hkept
    simp only [Tally.step, hkept]
    refine ⟨hwell, ?_, .inl hcount, Nat.le_max_right .., ?_⟩
    · simp only [hcache]
      omega
    · simp only
      omega
  | counted hkept hcount hdue =>
    simp only [Tally.step, hkept]
    refine ⟨hwell, ?_, .inr ?_, Nat.le_max_right .., Nat.le_trans h.kept (Nat.le_max_left ..)⟩
    · simp only [hcache]
      omega
    · simp only [hcache, hcount]
      omega
  | uncounted hkept hcount =>
    simp only [Tally.step, hkept]
    refine ⟨hwell, ?_, ?_, Nat.le_max_right .., Nat.le_trans h.kept (Nat.le_max_left ..)⟩
    · simp only [hcache]
      omega
    · have hbefore := h.pace
      simp only [hcache, hcount]
      omega

theorem Balanced.run {tally : Tally H K V} (h : tally.Balanced config) (moves : List (Move K V)) :
    (tally.run config moves).Balanced config := by
  induction moves generalizing tally with
  | nil => exact h
  | cons move moves ih => exact ih (h.step move)

omit [DecidableEq H] [DecidableEq K] in
/-- If at most every other operation since the last full sweep created a slot, at most one more than
half of the stored slots can be dead ones. -/
theorem Balanced.stored_le {tally : Tally H K V} (h : tally.Balanced config)
    (hcreated : 2 * tally.created ≤ tally.world.cache.sinceSweep + 2) :
    tally.world.cache.stored ≤ tally.bound config := by
  have hslots := h.slots
  have hpace := h.pace
  have hkept := h.kept
  have hstored := h.wellFormed.stored_eq
  rw [bound]
  omega

end Tally

end Tally

end PluginHost.Cache
