import PluginHost.Cache.KeyObject
import PluginHost.Proofs.Cache.Backlog

/-!
# A stream of keys that are not asked for again

One key stays alive, and values are stored under other keys that die at once. Two slots are live at
most, yet nothing is swept after a while: every operation creates a slot, so the count of operations
never catches up with the number of slots.
-/
namespace PluginHost.Cache

/-! ## A key that passes -/

section Passing

variable {H K V : Type} [DecidableEq H] [DecidableEq K] {config : CacheConfig H K}
  {world : World H K V} {key : K} {value : V}

/-- A new key, and a value under it. -/
def arrival (key : K) (value : V) : List (Move K V) := [.key (.birth key), .call (.put key value)]

omit [DecidableEq K] in
/-- Which slots are live is decided by their owners. -/
theorem live_congr {slots : List (Slot K V)} {alive later : K → Bool}
    (h : ∀ slot ∈ slots, ∀ owner ∈ slot.owners, later owner = alive owner) :
    slots.filter (·.isLive later) = slots.filter (·.isLive alive) := by
  refine List.filter_congr fun slot hslot => ?_
  rw [Bool.eq_iff_iff, Slot.isLive_iff, Slot.isLive_iff]
  constructor
  · rintro ⟨owner, howner, hlives⟩
    exact ⟨owner, howner, h slot hslot owner howner ▸ hlives⟩
  · rintro ⟨owner, howner, hlives⟩
    exact ⟨owner, howner, (h slot hslot owner howner).symm ▸ hlives⟩

/-- A key that is made owns nothing yet. -/
theorem live_birth (h : world.Sound config) (hunmade : world.fates key = .unmade) :
    world.cache.slots.filter (·.isLive (world.step config (.key (.birth key))).alive) =
      world.cache.slots.filter (·.isLive world.alive) := by
  refine live_congr fun slot hslot owner howner => ?_
  have hne : owner ≠ key := by
    rintro rfl
    exact h.known slot hslot owner howner hunmade
  simp [World.alive, Fates.alive, World.step, World.fatesAfter, Fates.after, hunmade,
    Function.update_of_ne hne]

/-- A value under a new key whose bucket is empty gets a slot of its own. Either everything was
swept before that, or nothing was. -/
theorem arrive (h : world.Sound config) {key : K} (hunmade : world.fates key = .unmade)
    (hempty : world.cache.shelf (config.strategy.hash key) = []) (value : V) :
    (world.run config (arrival key value)).fates = Function.update world.fates key .living ∧
      ((world.run config (arrival key value)).cache.slots.filter
          (·.isLive (world.run config (arrival key value)).alive)).Perm
        (⟨[key], value⟩ :: world.cache.slots.filter (·.isLive world.alive)) ∧
      (∀ hash, hash ≠ config.strategy.hash key →
        ((world.run config (arrival key value)).cache.shelf hash).Sublist
          (world.cache.shelf hash)) ∧
      (world.run config (arrival key value)).cache.stored =
        (if world.cache.isDue config.sweepFloor then world.liveCount else world.cache.stored) + 1 ∧
      (world.run config (arrival key value)).cache.sinceSweep =
        if world.cache.isDue config.sweepFloor then 0 else world.cache.sinceSweep + 1 := by
  have hfates : (world.step config (.key (.birth key))).fates =
      Function.update world.fates key .living := by
    simp only [World.step, World.fatesAfter, Fates.after, if_pos hunmade]
  have hliving : (world.step config (.key (.birth key))).alive key = true := by
    simp [World.alive, Fates.alive, hfates]
  have hlive := live_birth h hunmade
  obtain ⟨hslots, hshelves, hstored, hcount⟩ :=
    put_of_empty_bucket value h.wellFormed hliving hempty
  have hrun : world.run config (arrival key value) =
      { world.step config (.key (.birth key)) with
        cache := (world.cache.put config (world.step config (.key (.birth key))).alive key
          value).cache } := World.step_put hliving
  rw [hrun]
  refine ⟨hfates, hlive ▸ hslots, hshelves, ?_, hcount⟩
  have hcountP : world.cache.slots.countP
      (·.isLive (world.step config (.key (.birth key))).alive) = world.liveCount := by
    rw [List.countP_eq_length_filter, hlive, ← World.liveCount_eq_length]
  rw [← hcountP]
  exact hstored

theorem peak_arrive {tally : Tally H K V} (h : tally.world.Sound config) {key : K}
    (hunmade : tally.world.fates key = .unmade)
    (hempty : tally.world.cache.shelf (config.strategy.hash key) = []) (value : V) :
    (tally.run config (arrival key value)).peak ≤ max tally.peak (tally.world.liveCount + 1) := by
  have hborn : (tally.world.step config (.key (.birth key))).liveCount =
      tally.world.liveCount := by
    have hlive := live_birth h hunmade
    rw [World.liveCount_eq_length, World.liveCount_eq_length, ← hlive]
    rfl
  have hstored : (tally.world.run config (arrival key value)).liveCount =
      tally.world.liveCount + 1 := by
    obtain ⟨-, hlive, -⟩ := arrive h hunmade hempty value
    rw [World.liveCount_eq_length, World.liveCount_eq_length, hlive.length_eq, List.length_cons]
  have hpeak : (tally.run config (arrival key value)).peak =
      max (max tally.peak (tally.world.step config (.key (.birth key))).liveCount)
        (tally.world.run config (arrival key value)).liveCount := by
    show ((tally.step config (.key (.birth key))).step config (.call (.put key value))).peak = _
    rw [Tally.step_peak, Tally.step_peak, Tally.step_world]
    rfl
  omega

/-- When a key dies, the slot that it alone owns dies. -/
theorem live_death {other : K} {rest : V} (hne : key ≠ other)
    (hliving : world.fates other = .living)
    (hlive : (world.cache.slots.filter (·.isLive world.alive)).Perm
      [⟨[key], value⟩, ⟨[other], rest⟩]) :
    (world.cache.slots.filter
      (·.isLive (world.step config (.key (.death key))).alive)).Perm [⟨[other], rest⟩] := by
  let later := (world.step config (.key (.death key))).alive
  have hgone : later key = false := by
    simp only [later, World.alive, Fates.alive, World.step, World.fatesAfter, Fates.after]
    split
    · simp
    · simpa using ‹_›
  have hstays : later other = true := Fates.alive_after (Fates.alive_iff.mpr hliving)
    fun heq => hne (KeyEvent.death.inj heq)
  have hfewer : ∀ slot ∈ world.cache.slots,
      slot.isLive later = (slot.isLive later && slot.isLive world.alive) := by
    intro slot _
    cases hlater : slot.isLive later with
    | false => rfl
    | true =>
      obtain ⟨owner, howner, hlives⟩ := Slot.isLive_iff.mp hlater
      have hlived : world.alive owner = true := Fates.alive_of_alive_death hlives
      exact (Slot.isLive_iff.mpr ⟨owner, howner, hlived⟩).symm
  rw [List.filter_congr hfewer, ← List.filter_filter]
  have hfilter := hlive.filter (·.isLive later)
  simpa [Slot.isLive, hgone, hstays] using hfilter

end Passing

/-! ## One key stays and the others pass -/

variable {H K V : Type} [DecidableEq H] [DecidableEq K]

/-- Values are stored under one key after the other. The first key stays, the others die at once. -/
def stream (keys : Nat → K) (value : V) : Nat → List (Move K V)
  | 0 => arrival (keys 0) value
  | count + 1 =>
    stream keys value count ++
      (arrival (keys (count + 1)) value ++ [.key (.death (keys (count + 1)))])

/-- The world after so many keys have passed, each in a bucket of its own. Either the slots are two
ahead of the operations, or they are not and no sweep was due. -/
structure Steady (config : CacheConfig H K) (keys : Nat → K) (value : V) (count : Nat)
    (world : World H K V) : Prop where
  sound : world.Sound config
  first : world.fates (keys 0) = .living
  unmade : ∀ later, count < later → world.fates (keys later) = .unmade
  shelves : ∀ later, count < later →
    world.cache.shelf (config.strategy.hash (keys later)) = []
  live : (world.cache.slots.filter (·.isLive world.alive)).Perm [⟨[keys 0], value⟩]
  pace : world.cache.sinceSweep + 2 ≤ world.cache.stored ∧
      count + 1 ≤ world.cache.stored + config.sweepFloor.toNat ∨
    world.cache.stored ≤ world.cache.sinceSweep + 1 ∧ count ≤ world.cache.sinceSweep ∧
      (world.cache.sinceSweep < config.sweepFloor.toNat ∨ world.cache.sinceSweep = 0)

namespace Steady

variable {config : CacheConfig H K} {keys : Nat → K} {value : V} {count : Nat}
  {world : World H K V}

theorem opening (hkeys : Function.Injective (config.strategy.hash ∘ keys)) :
    Steady config keys value 0 (({} : World H K V).run config (stream keys value 0)) := by
  have hstart : ({} : World H K V).Sound config := .start
  have hunmade : ({} : World H K V).fates (keys 0) = .unmade := rfl
  obtain ⟨hfates, hlive, hshelves, hstored, hcount⟩ := arrive hstart hunmade rfl value
  rw [stream]
  refine ⟨hstart.run _, ?_, fun later hlater => ?_, fun later hlater => ?_, hlive, ?_⟩
  · rw [hfates, Function.update_self]
  · have hne : keys later ≠ keys 0 := fun heq =>
      absurd (hkeys (congrArg config.strategy.hash heq)) (Nat.ne_of_gt hlater)
    rw [hfates, Function.update_of_ne hne]
  · exact List.sublist_nil.mp (hshelves _ (hkeys.ne (Nat.ne_of_gt hlater)))
  · right
    by_cases hdue : ({} : Cache H K V).isDue config.sweepFloor = true
    · rw [if_pos hdue] at hstored hcount
      rw [hstored, hcount]
      exact ⟨Nat.le_refl _, Nat.le_refl _, .inr rfl⟩
    · rw [if_neg hdue] at hstored hcount
      rw [hstored, hcount]
      have hfloor := Nat.not_le.mp (mt isDue_iff.mpr hdue)
      simp at hfloor ⊢
      exact hfloor

omit [DecidableEq K] in
theorem liveCount (h : Steady config keys value count world) : world.liveCount = 1 := by
  rw [World.liveCount_eq_length, h.live.length_eq, List.length_singleton]

omit [DecidableEq K] in
/-- Arithmetic of one more key: what is ahead stays ahead, and what is not is swept at the floor. -/
theorem pace_next (h : Steady config keys value count world) :
    let stored := (if world.cache.isDue config.sweepFloor then world.liveCount
      else world.cache.stored) + 1
    let sinceSweep := if world.cache.isDue config.sweepFloor then 0
      else world.cache.sinceSweep + 1
    sinceSweep + 2 ≤ stored ∧ count + 1 + 1 ≤ stored + config.sweepFloor.toNat ∨
      stored ≤ sinceSweep + 1 ∧ count + 1 ≤ sinceSweep ∧
        (sinceSweep < config.sweepFloor.toNat ∨ sinceSweep = 0) := by
  intro stored sinceSweep
  have hpace := h.pace
  have hone := h.liveCount
  -- a sweep leaves the first slot and adds the new one, so the slots are two ahead from then on
  by_cases hdue : world.cache.isDue config.sweepFloor = true
  · have hstored : stored = 2 := by simp only [stored, if_pos hdue, hone]
    have hcount : sinceSweep = 0 := if_pos hdue
    have hlimit := isDue_iff.mp hdue
    omega
  · have hstored : stored = world.cache.stored + 1 := by simp only [stored, if_neg hdue]
    have hcount : sinceSweep = world.cache.sinceSweep + 1 := if_neg hdue
    have hlimit := mt isDue_iff.mpr hdue
    omega

theorem pass (hkeys : Function.Injective (config.strategy.hash ∘ keys))
    (h : Steady config keys value count world) :
    Steady config keys value (count + 1)
      (world.run config
        (arrival (keys (count + 1)) value ++ [.key (.death (keys (count + 1)))])) := by
  have hdiffers {first second : Nat} (hne : first ≠ second) : keys first ≠ keys second := fun heq =>
    absurd (hkeys (congrArg config.strategy.hash heq)) hne
  obtain ⟨hfates, hlive, hshelves, hstored, hcount⟩ := arrive h.sound
    (h.unmade (count + 1) (Nat.lt_succ_self count))
    (h.shelves (count + 1) (Nat.lt_succ_self count)) value
  rw [World.run_append]
  generalize hafter : world.run config (arrival (keys (count + 1)) value) = after at *
  have hsound : after.Sound config := hafter ▸ h.sound.run _
  have hfirst : after.fates (keys 0) = .living := by
    rw [hfates, Function.update_of_ne (hdiffers (Nat.succ_ne_zero count).symm)]
    exact h.first
  have hdeath {other : K} (hne : other ≠ keys (count + 1)) :
      (after.fates.after (.death (keys (count + 1)))) other = after.fates other :=
    Fates.after_death_of_ne hne
  have hpace := h.pace_next
  refine ⟨hsound.step _, ?_, fun later hlater => ?_, fun later hlater => ?_, ?_, ?_⟩
  · exact (hdeath (hdiffers (Nat.succ_ne_zero count).symm)).trans hfirst
  · have hne := hdiffers (Nat.ne_of_gt hlater)
    refine (hdeath hne).trans ?_
    rw [hfates, Function.update_of_ne hne]
    exact h.unmade later (Nat.lt_of_succ_lt hlater)
  · have hsub := hshelves _ (hkeys.ne (Nat.ne_of_gt hlater))
    have hnone := h.shelves later (Nat.lt_of_succ_lt hlater)
    rw [Function.comp_apply] at hsub
    rw [hnone] at hsub
    exact List.sublist_nil.mp hsub
  · exact live_death (hdiffers (Nat.succ_ne_zero count)) hfirst (hlive.trans (h.live.cons _))
  · rw [← hstored, ← hcount] at hpace
    exact hpace

theorem streamed (hkeys : Function.Injective (config.strategy.hash ∘ keys)) (count : Nat) :
    Steady config keys value count
      (({} : World H K V).run config (stream keys value count)) := by
  induction count with
  | zero => exact opening hkeys
  | succ count ih =>
    rw [stream, World.run_append]
    exact ih.pass hkeys

/-- Beside the slot of the first key one other slot is live at most. -/
theorem peak_le (hkeys : Function.Injective (config.strategy.hash ∘ keys)) (value : V)
    (count : Nat) : (({} : Tally H K V).run config (stream keys value count)).peak ≤ 2 := by
  induction count with
  | zero =>
    have hstart : ({} : World H K V).Sound config := .start
    have hpeak : (({} : Tally H K V).run config (arrival (keys 0) value)).peak ≤ max 0 (0 + 1) :=
      peak_arrive hstart rfl rfl value
    exact Nat.le_trans hpeak (by decide)
  | succ count ih =>
    have hsteady : Steady config keys value count
        (({} : Tally H K V).run config (stream keys value count)).world := by
      rw [Tally.run_world]
      exact streamed hkeys count
    have hnext : Steady config keys value (count + 1)
        (({} : Tally H K V).run config (stream keys value (count + 1))).world := by
      rw [Tally.run_world]
      exact streamed hkeys (count + 1)
    -- the death brings the live slots back to one, which the arrival had passed
    have hpeak := peak_arrive hsteady.sound (hsteady.unmade (count + 1) (Nat.lt_succ_self count))
      (hsteady.shelves (count + 1) (Nat.lt_succ_self count)) value
    have hbefore := hsteady.liveCount
    have hafter := hnext.liveCount
    rw [stream, Tally.run_append, Tally.run_append, Tally.run_singleton] at hafter ⊢
    rw [Tally.step_world] at hafter
    rw [Tally.step_peak]
    omega

/-- However many slots are asked for, that many are stored at some time. -/
theorem count_le (hkeys : Function.Injective (config.strategy.hash ∘ keys)) (value : V)
    (count : Nat) :
    count ≤ (({} : World H K V).run config
      (stream keys value (count + config.sweepFloor.toNat))).cache.stored := by
  have hsteady : Steady config keys value (count + config.sweepFloor.toNat) _ := streamed hkeys _
  have hpace := hsteady.pace
  omega

end Steady

/-- What is stored and what is gone is what the last full sweep kept and what was created since. So
twice the most live slots, the floor and one bound the stored slots as long as at most every other
operation creates a slot. A stream of keys in buckets of their own passes every bound, although two
slots are live at most. -/
theorem backlog_bounded_unless_streamed (config : CacheConfig H K) (moves : List (Move K V)) :
    (Tally.ofRun config moves).world.cache.stored + (Tally.ofRun config moves).gone =
        (Tally.ofRun config moves).kept + (Tally.ofRun config moves).created ∧
      (2 * (Tally.ofRun config moves).created ≤
          (Tally.ofRun config moves).world.cache.sinceSweep + 2 →
        (Tally.ofRun config moves).world.cache.stored ≤ (Tally.ofRun config moves).bound config) ∧
      ∀ (keys : Nat → K) (value : V), Function.Injective (config.strategy.hash ∘ keys) →
        ∀ count,
          (Tally.ofRun config (stream keys value (count + config.sweepFloor.toNat))).peak ≤ 2 ∧
            count ≤ (Tally.ofRun config
              (stream keys value (count + config.sweepFloor.toNat))).world.cache.stored := by
  have hbalanced : (Tally.ofRun config moves).Balanced config := Tally.Balanced.start.run moves
  refine ⟨?_, hbalanced.stored_le, fun keys value hkeys count =>
    ⟨Steady.peak_le hkeys value _, ?_⟩⟩
  · rw [hbalanced.wellFormed.stored_eq]
    exact hbalanced.slots
  · rw [Tally.ofRun, Tally.run_world]
    exact Steady.count_le hkeys value count

/-- Numbers as keys, each in a bucket of its own, and no floor. -/
def numbered : CacheConfig Nat Nat where
  strategy := { hash := id, equal := fun stored probe => stored == probe }
  sweepFloor := 0

/-- Two keys stay for a while, then values are stored under keys that pass. -/
def patientMoves : List (Move Nat Unit) :=
  arrival 1 () ++ arrival 2 () ++ [.call (.get 1), .call (.get 1), .key (.death 2)] ++
    arrival 3 () ++ [.key (.death 3)] ++ arrival 4 () ++ [.key (.death 4)] ++
    arrival 5 () ++ [.key (.death 5), .call (.get 1)]

theorem backlog_bounded_patient :
    2 * (Tally.ofRun numbered patientMoves).created ≤
        (Tally.ofRun numbered patientMoves).world.cache.sinceSweep + 2 ∧
      (Tally.ofRun numbered patientMoves).world.cache.stored = 5 ∧
      (Tally.ofRun numbered patientMoves).world.cache.stored ≤
        (Tally.ofRun numbered patientMoves).bound numbered ∧
      Function.Injective (numbered.strategy.hash ∘ id) ∧
      (Tally.ofRun numbered (stream id () (1000 + numbered.sweepFloor.toNat))).peak ≤ 2 ∧
      1000 ≤ (Tally.ofRun numbered
        (stream id () (1000 + numbered.sweepFloor.toNat))).world.cache.stored :=
  have hcreated : 2 * (Tally.ofRun numbered patientMoves).created ≤
      (Tally.ofRun numbered patientMoves).world.cache.sinceSweep + 2 := by decide +kernel
  have hkeys : Function.Injective (numbered.strategy.hash ∘ id) := fun _ _ heq => heq
  ⟨hcreated, by decide +kernel,
    (backlog_bounded_unless_streamed numbered patientMoves).2.1 hcreated, hkeys,
    (backlog_bounded_unless_streamed numbered patientMoves).2.2 id () hkeys 1000⟩

/-- One more key that passes is one too many: no sweep comes, and the slots are more than twice the
two that were live, and one. -/
theorem backlog_exceeds_bound :
    let config : CacheConfig KeyDigest KeyObject :=
      { strategy := KeyMatching.natural.strategy, sweepFloor := 0 }
    let passing (serial : Nat) (text : String) : List (Move KeyObject Nat) :=
      arrival ⟨serial, text⟩ serial ++ [.key (.death ⟨serial, text⟩)]
    let tally := Tally.ofRun config
      (arrival ⟨1, "a"⟩ 1 ++ arrival ⟨2, "b"⟩ 2 ++
        [.call (.get ⟨1, "a"⟩), .call (.get ⟨1, "a"⟩), .key (.death ⟨2, "b"⟩)] ++
        passing 3 "x1" ++ passing 4 "x2" ++ passing 5 "x3" ++ passing 6 "x4" ++
        [.call (.get ⟨1, "a"⟩)])
    tally.peak = 2 ∧ 2 * tally.created = tally.world.cache.sinceSweep + 3 ∧
      tally.world.cache.stored = 6 ∧ ¬tally.world.cache.stored ≤ tally.bound config := by
  decide +kernel

end PluginHost.Cache
