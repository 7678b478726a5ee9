import Mathlib.Data.List.Perm.Subperm
import PluginHost.Proofs.Cache.Dead
import PluginHost.Proofs.Cache.Reentry
import PluginHost.Proofs.Cache.Refinement

/-!
# How long dead slots stay

A dead slot in a bucket that nothing looks into waits for a full sweep. That is not put off for
ever: each operation that looks for a key brings it nearer, and only new slots push it away. So it
comes after as many operations as slots were stored when the waiting began or created since.
-/
namespace PluginHost.Cache

variable {H K V : Type}

/-! ## A cache that is watched -/

/-- A world, and what happened in it since it was first looked at. -/
structure Watch (H K V : Type) where
  world : World H K V
  /-- How many operations looked for a key. -/
  operations : Nat := 0
  /-- How many slots were created. -/
  created : Nat := 0
  /-- The values that were destroyed. -/
  destroyed : List V := []

namespace Watch

/-- The state after an operation of the cache. Of its slots, those are new that are more than what
was not released. -/
def note {α : Type} (outcome : Outcome H K V α) (watch : Watch H K V) : Watch H K V :=
  { watch with
    world := { watch.world with cache := outcome.cache }
    created := watch.created +
      (outcome.cache.slotCount + outcome.released.length - watch.world.cache.slotCount)
    destroyed := watch.destroyed ++ outcome.destroyed }

/-- A watch as the surroundings of its cache. -/
def surroundings : Surroundings (Watch H K V) H K V where
  cache := (·.world.cache)
  alive := (·.world.alive)
  absorb := note

variable [DecidableEq H] [DecidableEq K]

/-- The state after key events. -/
def witness (watch : Watch H K V) (events : List (KeyEvent K)) : Watch H K V :=
  { watch with world := { watch.world with fates := events.foldl Fates.after watch.world.fates } }

variable (config : CacheConfig H K)

/-- Serves a request. A memoized call is one operation. -/
def serve (watch : Watch H K V) : Request K V → Watch H K V
  | .key event => watch.witness [event]
  | .call call =>
    { watch.note (call.perform config watch.world.alive watch.world.cache) with
      operations := watch.operations + if (call.key? watch.world.alive).isSome then 1 else 0 }
  | .memo key made meanwhile =>
    if watch.world.alive key then
      (getOrInsert surroundings config key
        (fun asked => ((made, ()), asked.witness (KeyEvent.whileHeld key meanwhile)))
        { watch with operations := watch.operations + 1 }).2
    else watch

/-- Serves requests in turn. -/
def serveAll (watch : Watch H K V) (requests : List (Request K V)) : Watch H K V :=
  requests.foldl (serve config) watch

/-- Makes a move. -/
def move (watch : Watch H K V) (move : Move K V) : Watch H K V :=
  { watch.note (watch.world.respond config move) with
    world := watch.world.step config move
    operations := watch.operations + if watch.world.counts move then 1 else 0 }

/-- Makes moves in turn. -/
def moveAll (watch : Watch H K V) (moves : List (Move K V)) : Watch H K V :=
  moves.foldl (Watch.move config) watch

variable {config} {watch : Watch H K V}

@[simp] theorem moveAll_nil : watch.moveAll config [] = watch := rfl

@[simp] theorem moveAll_cons (move : Move K V) (moves : List (Move K V)) :
    watch.moveAll config (move :: moves) = (watch.move config move).moveAll config moves := rfl

theorem moveAll_append (first second : List (Move K V)) :
    watch.moveAll config (first ++ second) =
      (watch.moveAll config first).moveAll config second :=
  List.foldl_append

theorem serve_key (event : KeyEvent K) :
    watch.serve config (.key event) = watch.move config (.key event) := by
  simp [serve, move, witness, note, World.respond, World.step, World.fatesAfter, World.counts,
    Outcome.destroyed]

theorem serve_call (call : Call K V) :
    watch.serve config (.call call) = watch.move config (.call call) := by
  simp only [serve, move, World.counts_call]
  rfl

theorem moveAll_keys (events : List (KeyEvent K)) :
    watch.moveAll config (events.map .key) = watch.witness events := by
  induction events generalizing watch with
  | nil => rfl
  | cons event events ih =>
    rw [List.map_cons, moveAll_cons, ih, ← serve_key]
    rfl

theorem move_get (key : K) :
    watch.move config (.call (.get key)) =
      note ((watch.world.cache.get config watch.world.alive key).map fun _ => ())
        { watch with operations := watch.operations + 1 } := rfl

theorem move_settle {key : K} (living : watch.world.alive key = true) (made : V) :
    watch.move config (.settle key made) =
      note ((watch.world.cache.settle config watch.world.alive key made).map fun _ => ())
        watch := by
  simp only [move, World.step, World.respond, living, if_true]
  rfl

/-- A memoized call is two moves, with key events in between. -/
theorem exists_moves_memo {key : K} (living : watch.world.alive key = true) (made : V)
    (meanwhile : List (KeyEvent K)) :
    ∃ moves, watch.serve config (.memo key made meanwhile) = watch.moveAll config moves := by
  simp only [serve, living, if_true, getOrInsert, surroundings]
  split
  · exact ⟨[.call (.get key)], rfl⟩
  · refine ⟨.call (.get key) :: ((KeyEvent.whileHeld key meanwhile).map .key ++
      [.settle key made]), ?_⟩
    have hheld : ((watch.move config (.call (.get key))).witness
        (KeyEvent.whileHeld key meanwhile)).world.alive key = true :=
      Fates.alive_whileHeld living meanwhile
    rw [moveAll_cons, moveAll_append, moveAll_keys, moveAll_cons, moveAll_nil,
      move_settle hheld, move_get]

/-- Every list of requests is a list of moves. -/
theorem exists_moves (requests : List (Request K V)) :
    ∃ moves, watch.serveAll config requests = watch.moveAll config moves := by
  induction requests generalizing watch with
  | nil => exact ⟨[], rfl⟩
  | cons request requests ih =>
    have hfirst : ∃ moves, watch.serve config request = watch.moveAll config moves := by
      cases request with
      | key event => exact ⟨[.key event], serve_key event⟩
      | call call => exact ⟨[.call call], serve_call call⟩
      | memo key made meanwhile =>
        by_cases living : watch.world.alive key = true
        · exact exists_moves_memo living made meanwhile
        · exact ⟨[], by simp only [serve, if_neg living]; rfl⟩
    obtain ⟨first, hfirst⟩ := hfirst
    obtain ⟨rest, hrest⟩ : ∃ moves, (watch.serve config request).serveAll config requests =
        (watch.serve config request).moveAll config moves := ih
    refine ⟨first ++ rest, ?_⟩
    rw [moveAll_append, ← hfirst]
    exact hrest

end Watch

/-! ## Why dead slots leave -/

/-- Whether all owners of a slot were dead at the start. -/
def World.isStale (start : World H K V) (slot : Slot K V) : Bool :=
  slot.owners.all (start.fates · = .dead)

/-- What is true until the first full sweep. Every operation was counted, and no slot is stored that
was not stored at the start or created since. -/
structure Watch.Unswept (config : CacheConfig H K) (start : World H K V) (watch : Watch H K V) :
    Prop where
  counted : watch.operations ≤ watch.world.cache.sinceSweep
  stored : watch.world.cache.stored ≤ start.cache.stored + watch.created
  early : watch.operations = 0 ∨
    watch.operations < max (start.cache.stored + watch.created) config.sweepFloor.toNat

/-- What is true of a world that was watched from the start. -/
structure Watch.Follows (config : CacheConfig H K) (start : World H K V) (watch : Watch H K V) :
    Prop where
  wellFormed : watch.world.cache.WellFormed
  dead : ∀ key, start.fates key = .dead → watch.world.fates key = .dead
  destroyed : ((start.cache.slots.filter start.isStale).map (·.value)).Subperm
    ((watch.world.cache.slots.filter start.isStale).map (·.value) ++ watch.destroyed)
  pace : watch.world.cache.slots.filter start.isStale = [] ∨ watch.Unswept config start

namespace Watch.Follows

variable [DecidableEq H] [DecidableEq K] {config : CacheConfig H K} {start : World H K V}
  {watch : Watch H K V}

omit [DecidableEq H] [DecidableEq K] in
theorem begun (h : start.cache.WellFormed) :
    Follows config start ({ world := start } : Watch H K V) where
  wellFormed := h
  dead := fun _ => id
  destroyed := by rw [List.append_nil]
  pace := .inr ⟨Nat.zero_le _, Nat.le_refl _, .inl rfl⟩

omit [DecidableEq H] [DecidableEq K] in
/-- The dead do not come back. -/
theorem not_live (h : watch.Follows config start) {slot : Slot K V}
    (hstale : start.isStale slot = true) : slot.isLive watch.world.alive = false := by
  refine Slot.isLive_eq_false_iff.mpr fun owner howner => ?_
  have hdead : start.fates owner = .dead := by
    simpa using List.all_eq_true.mp hstale owner howner
  simp [World.alive, Fates.alive, h.dead owner hdead]

theorem change (h : watch.Follows config start) (move : Move K V) :
    Change config watch.world.alive watch.world.cache (watch.world.respond config move).cache
      (watch.world.respond config move).released :=
  World.change_respond h.wellFormed move

/-- Stale slots stay or are released. -/
theorem perm_stale (h : watch.Follows config start) (move : Move K V) :
    (watch.world.cache.slots.filter start.isStale).Perm
      ((watch.world.respond config move).cache.slots.filter start.isStale ++
        (watch.world.respond config move).released.filter start.isStale) :=
  (h.change move).perm_filter fun _ => h.not_live

/-- The number of stored slots grows by what is created at most. -/
theorem stored_move (h : watch.Follows config start) (move : Move K V) :
    (watch.move config move).world.cache.stored + watch.created ≤
      watch.world.cache.stored + (watch.move config move).created := by
  have hbefore := h.wellFormed.stored
  have hafter := (h.change move).wellFormed.stored
  simp only [Watch.move, note, World.step]
  omega

/-- A full sweep leaves no stale slot. -/
theorem none_of_swept (h : watch.Follows config start) {move : Move K V} {kept : Nat}
    (hkept : watch.world.keptBy config.sweepFloor move = some kept)
    (hreleased : kept + (watch.world.respond config move).released.length =
      watch.world.cache.slots.length) :
    (watch.world.respond config move).cache.slots.filter start.isStale = [] := by
  have hfew : kept ≤ watch.world.cache.slots.countP (·.isLive watch.world.alive) :=
    World.keptBy_le hkept
  refine List.filter_eq_nil_iff.mpr fun slot hslot hstale => ?_
  have hlive := (h.change move).all_live (by omega) slot hslot
  rw [h.not_live hstale] at hlive
  cases hlive

/-- Stale slots are left only until the first full sweep. -/
theorem pace_move (h : watch.Follows config start) (move : Move K V) :
    (watch.move config move).world.cache.slots.filter start.isStale = [] ∨
      (watch.move config move).Unswept config start := by
  have hperm := h.perm_stale move
  rcases h.pace with hnone | ⟨hcounted, hfew, hearly⟩
  · rw [hnone] at hperm
    exact .inl (List.append_eq_nil_iff.mp (List.nil_perm.mp hperm)).1
  have hcache : (watch.move config move).world.cache =
      (watch.world.respond config move).cache := rfl
  have hoperations : (watch.move config move).operations =
      watch.operations + if watch.world.counts move then 1 else 0 := rfl
  have hcreated : watch.created ≤ (watch.move config move).created := Nat.le_add_right ..
  have hstored := h.stored_move move
  cases World.paced_respond config h.wellFormed move with
  | swept kept hkept hreleased => exact .inl (h.none_of_swept hkept hreleased)
  | counted hkept hcount hdue =>
    -- no sweep was due, so there were fewer operations than stored slots
    refine .inr ⟨?_, by omega, .inr ?_⟩
    · rw [hcache, hcount, hoperations]
      split <;> omega
    · rw [hoperations]
      split <;> omega
  | uncounted hkept hcount =>
    have hpassed : ¬watch.world.counts move = true := fun hcounts => by
      have hdue := World.not_due_of_keptBy hcounts hkept
      rw [World.sinceSweep_of_counts hcounts, countOperation_of_not_due hdue] at hcount
      simp at hcount
    rw [if_neg hpassed] at hoperations
    exact .inr ⟨by rw [hcache, hcount]; omega, by omega, by omega⟩

theorem move (h : watch.Follows config start) (move : Move K V) :
    (watch.move config move).Follows config start := by
  refine ⟨(h.change move).wellFormed,
    fun key hkey => World.dead_fatesAfter move (h.dead key hkey), ?_, h.pace_move move⟩
  classical
  refine List.subperm_iff_count.mpr fun token => ?_
  have hcount := List.subperm_iff_count.mp h.destroyed token
  have hmoved := ((h.perm_stale move).map (·.value)).count_eq token
  have hreleased := ((List.filter_sublist (p := start.isStale)
    (l := (watch.world.respond config move).released)).map (·.value)).count_le token
  simp only [Watch.move, note, World.step, Outcome.destroyed, List.map_append,
    List.count_append] at hcount hmoved hreleased ⊢
  omega

theorem moveAll (h : watch.Follows config start) (moves : List (Move K V)) :
    (watch.moveAll config moves).Follows config start := by
  induction moves generalizing watch with
  | nil => exact h
  | cons move moves ih => exact ih (h.move move)

omit [DecidableEq H] [DecidableEq K] in
/-- After enough operations no stale slot is left. -/
theorem none_stale (h : watch.Follows config start) {created : Nat}
    (hcreated : watch.created ≤ created)
    (henough : max (start.cache.stored + created) config.sweepFloor.toNat ≤ watch.operations) :
    watch.world.cache.slots.filter start.isStale = [] := by
  rcases h.pace with hnone | ⟨-, hfew, hearly⟩
  · exact hnone
  · -- no operations are enough only where nothing is stored
    have hempty : watch.world.cache.slots.length = 0 := by
      have hstored := h.wellFormed.stored_eq
      omega
    rw [List.length_eq_zero_iff.mp hempty, List.filter_nil]

end Watch.Follows

/-! ## The bound -/

section Bound

variable [DecidableEq H] [DecidableEq K] {config : CacheConfig H K} {world : World H K V}

/-- A memoized call refreshes the bucket of its key last, whatever its making did. -/
theorem liveAt_getOrInsert {ι : Type} {key : K} {make : World H K V → (V × ι) × World H K V}
    (h : world.Sound config) (living : world.alive key = true)
    (hmake : Course config [key] (world.step config (.call (.get key)))
      (make (world.step config (.call (.get key)))).2) :
    (getOrInsert worldly config key make world).2.cache.LiveAt
      (getOrInsert worldly config key make world).2.alive (config.strategy.hash key) := by
  cases hanswer : (world.cache.get config world.alive key).answer with
  | some value =>
    rw [getOrInsert_of_some config make hanswer]
    exact (get_ready config world.alive h.wellFormed key).1.live
  | none =>
    obtain ⟨inside, hheld, hstate⟩ := hmake.exists_moves
    have hsound := (h.step (.call (.get key))).run inside
    have hliving : ((world.step config (.call (.get key))).run config inside).alive key = true :=
      World.alive_run living (hheld key List.mem_cons_self)
    rw [← hstate] at hsound hliving
    rw [getOrInsert_of_none config make hanswer hliving]
    simp only [World.step_settle hliving]
    exact liveAt_settle hsound.wellFormed hliving _

omit [DecidableEq K] in
/-- The stale slots of a world are those that are dead in it. -/
theorem World.Sound.isStale_eq (h : world.Sound config) {slot : Slot K V}
    (hslot : slot ∈ world.cache.slots) : world.isStale slot = !slot.isLive world.alive := by
  have hknown := h.known slot hslot
  rw [Bool.eq_iff_iff, Bool.not_eq_true', Slot.isLive_eq_false_iff, World.isStale,
    List.all_eq_true]
  refine forall₂_congr fun owner howner => ?_
  have howner := hknown owner howner
  cases hfate : world.fates owner with
  | unmade => exact absurd hfate howner
  | living => simp [World.alive, Fates.alive, hfate]
  | dead => simp [World.alive, Fates.alive, hfate]

/-- An operation that looks for a key leaves only live slots where the hash of the key leads to, a
memoized call also if its making uses the cache. A slot that is dead in some world is gone, and its
value destroyed, as soon as so many operations were served as slots were stored then or created
since, and not fewer than the floor. -/
theorem dead_slots_leave_in_time (config : CacheConfig H K) (hworld : Course config [] {} world) :
    (∀ (call : Call K V) (key : K), call.key? world.alive = some key →
      (world.step config (.call call)).cache.LiveAt world.alive (config.strategy.hash key)) ∧
    (∀ (ι : Type) (key : K) (make : World H K V → (V × ι) × World H K V),
      world.alive key = true →
      Course config [key] (world.step config (.call (.get key)))
        (make (world.step config (.call (.get key)))).2 →
      (getOrInsert worldly config key make world).2.cache.LiveAt
        (getOrInsert worldly config key make world).2.alive (config.strategy.hash key)) ∧
    ∀ (requests : List (Request K V)) (created : Nat),
      let watch := Watch.serveAll config { world := world } requests
      watch.created ≤ created →
      max (world.cache.stored + created) config.sweepFloor.toNat ≤ watch.operations →
      (∀ slot ∈ world.cache.slots, slot.isLive world.alive = false →
        slot ∉ watch.world.cache.slots) ∧
      ((world.cache.slots.filter (!·.isLive world.alive)).map (·.value)).Subperm
        watch.destroyed := by
  obtain ⟨earlier, -, rfl⟩ := hworld.exists_moves
  have hsound : (({} : World H K V).run config earlier).Sound config :=
    World.Sound.start.run earlier
  generalize ({} : World H K V).run config earlier = world at hsound
  refine ⟨fun call key hkey => liveAt_perform hsound.wellFormed hkey,
    fun ι key make living hmake => liveAt_getOrInsert hsound living hmake,
    fun requests created => ?_⟩
  intro watch hcreated henough
  obtain ⟨moves, hmoves⟩ : ∃ moves, watch = Watch.moveAll config { world := world } moves :=
    Watch.exists_moves requests
  have hfollows : watch.Follows config world := by
    rw [hmoves]
    exact (Watch.Follows.begun hsound.wellFormed).moveAll moves
  have hnone := hfollows.none_stale hcreated henough
  refine ⟨fun slot hslot hdead hmem => ?_, ?_⟩
  · refine List.filter_eq_nil_iff.mp hnone slot hmem ?_
    rw [hsound.isStale_eq hslot, hdead, Bool.not_false]
  · have hdestroyed := hfollows.destroyed
    rw [hnone, List.map_nil, List.nil_append] at hdestroyed
    rwa [List.filter_congr fun slot hslot => (hsound.isStale_eq hslot).symm]

end Bound

/-- Two slots are stored, one of them dead, and a third one is created. Nothing looks into the
bucket of the dead slot, which is left after two operations and gone after three. -/
theorem dead_slots_leave_in_time_exactly :
    let config : CacheConfig Nat Nat :=
      { strategy := { hash := id, equal := fun stored probe => stored == probe }, sweepFloor := 2 }
    let world := ({} : World Nat Nat Nat).run config
      [.key (.birth 0), .key (.birth 1), .key (.birth 2), .call (.put 0 10), .call (.put 1 11),
        .key (.death 0)]
    let make (asked : World Nat Nat Nat) : (Nat × Unit) × World Nat Nat Nat := ((12, ()), asked)
    let early : List (Request Nat Nat) := [.memo 2 12 [.death 1], .call (.get 2)]
    let late := early ++ [.call (.contains 3)]
    world.cache.stored = 2 ∧
      (Watch.serveAll config { world := world } early).operations = 2 ∧
      (Watch.serveAll config { world := world } early).world.cache.slots =
        [⟨[0], 10⟩, ⟨[1], 11⟩, ⟨[2], 12⟩] ∧
      (Watch.serveAll config { world := world } late).created ≤ 1 ∧
      max (world.cache.stored + 1) config.sweepFloor.toNat ≤
        (Watch.serveAll config { world := world } late).operations ∧
      (Watch.serveAll config { world := world } late).world.cache.slots = [⟨[2], 12⟩] ∧
      (Watch.serveAll config { world := world } late).destroyed = [10, 11] ∧
      ((world.cache.slots.filter (!·.isLive world.alive)).map (·.value)).Subperm
        (Watch.serveAll config { world := world } late).destroyed ∧
      (world.step config (.call (.get 1))).cache.LiveAt world.alive (config.strategy.hash 1) ∧
      (getOrInsert worldly config 2 make world).2.cache.LiveAt
        (getOrInsert worldly config 2 make world).2.alive (config.strategy.hash 2) := by
  intro config world make early late
  have hworld : Course config [] {} world :=
    .key (.birth 0) (by simp) (.key (.birth 1) (by simp) (.key (.birth 2) (by simp)
      (.call (.put 0 10) (.call (.put 1 11) (.key (.death 0) (by simp) .ended)))))
  have hcreated : (Watch.serveAll config { world := world } late).created ≤ 1 := by decide
  have henough : max (world.cache.stored + 1) config.sweepFloor.toNat ≤
      (Watch.serveAll config { world := world } late).operations := by decide
  obtain ⟨hcall, hmemo, htime⟩ := dead_slots_leave_in_time config hworld
  obtain ⟨-, hdestroyed⟩ := htime late 1 hcreated henough
  exact ⟨by decide, by decide, by decide, hcreated, henough, by decide, by decide, hdestroyed,
    hcall (.get 1) 1 rfl, hmemo Unit 2 make (by decide) .ended⟩

end PluginHost.Cache
