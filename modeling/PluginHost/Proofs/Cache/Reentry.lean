import PluginHost.Proofs.Cache.Lifetime
import PluginHost.Proofs.Cache.Uniqueness

/-!
# Memoized calls that reenter the cache

What makes a value for a memoized call may use the cache as it likes: make and drop keys, store,
remove and clear, and call for memoized values itself, for the same key or an equal one. A `Course`
is anything of that kind. The call looks its key up once before and once after it, and these two
lookups decide what it stores and returns.
-/
namespace PluginHost.Cache

variable {H K V : Type} [DecidableEq H] [DecidableEq K]

/-! ## Nested calls -/

/-- What may go on in a world while the keys of a list are held. A memoized call is made as a whole;
where a value is made for it, that is a course in which its key is held as well. A course may stop
anywhere, also within a making: what went before is then the lookup, which is a call like any other,
and the course of the making so far. -/
inductive Course (config : CacheConfig H K) : List K → World H K V → World H K V → Prop
  | ended {held world} : Course config held world world
  | key {held world after} (event : KeyEvent K) (hheld : ∀ key ∈ held, event ≠ .death key)
      (rest : Course config held (world.step config (.key event)) after) :
      Course config held world after
  | call {held world after} (call : Call K V)
      (rest : Course config held (world.step config (.call call)) after) :
      Course config held world after
  | memo {held world after} {ι : Type} (key : K) (make : World H K V → (V × ι) × World H K V)
      (living : world.alive key = true)
      (making : (world.cache.get config world.alive key).answer = none →
        Course config (key :: held) (world.step config (.call (.get key)))
          (make (world.step config (.call (.get key)))).2)
      (rest : Course config held (getOrInsert worldly config key make world).2 after) :
      Course config held world after

/-- A course is a run: a memoized call is the lookup before and the one after, with the course of
its making in between. -/
theorem Course.exists_moves {config : CacheConfig H K} {held : List K} {world after : World H K V}
    (h : Course config held world after) :
    ∃ moves : List (Move K V), (∀ key ∈ held, .key (.death key) ∉ moves) ∧
      after = world.run config moves := by
  induction h with
  | ended => exact ⟨[], by simp, rfl⟩
  | key event hheld _ ih =>
    obtain ⟨moves, hmoves, rfl⟩ := ih
    refine ⟨.key event :: moves, fun key hkey hmem => ?_, rfl⟩
    rcases List.mem_cons.mp hmem with heq | hmem
    · exact hheld key hkey (Move.key.inj heq).symm
    · exact hmoves key hkey hmem
  | call call _ ih =>
    obtain ⟨moves, hmoves, rfl⟩ := ih
    exact ⟨.call call :: moves, fun key hkey => by simpa using hmoves key hkey, rfl⟩
  | @memo held world after ι key make living making _ ihMaking ih =>
    obtain ⟨moves, hmoves, rfl⟩ := ih
    cases hanswer : (world.cache.get config world.alive key).answer with
    | some value =>
      rw [getOrInsert_of_some config make hanswer]
      exact ⟨.call (.get key) :: moves, fun other hother => by simpa using hmoves other hother, rfl⟩
    | none =>
      obtain ⟨inside, hinside, hstate⟩ := ihMaking hanswer
      have hliving : (make (world.step config (.call (.get key)))).2.alive key = true := by
        rw [hstate]
        exact World.alive_run living (hinside key List.mem_cons_self)
      rw [getOrInsert_of_none config make hanswer hliving]
      let made := (make (world.step config (.call (.get key)))).1.1
      refine ⟨.call (.get key) :: (inside ++ .settle key made :: moves), fun other hother => ?_, ?_⟩
      · have hone := hinside other (List.mem_cons_of_mem _ hother)
        have hrest := hmoves other hother
        simp [hone, hrest]
      · rw [World.run_cons, World.run_append, ← hstate]
        rfl

theorem World.Orderly.course {config : CacheConfig H K} {held : List K} {world after : World H K V}
    (hc : config.strategy.Consistent) (ho : world.Orderly config)
    (h : Course config held world after) : after.Orderly config := by
  obtain ⟨moves, -, rfl⟩ := h.exists_moves
  exact ho.run hc moves

/-! ## How often a value is made -/

section Counting

variable {W ι : Type} (around : Surroundings W H K V) (config : CacheConfig H K) (key : K)
  (make : W → (V × ι) × W)

/-- The same surroundings with a counter beside. -/
def Surroundings.counting : Surroundings (W × Nat) H K V where
  cache state := around.cache state.1
  alive state := around.alive state.1
  absorb outcome state := (around.absorb outcome state.1, state.2)

/-- Makes a value and counts that. -/
def counted (state : W × Nat) : (V × ι) × (W × Nat) :=
  ((make state.1).1, ((make state.1).2, state.2 + 1))

/-- A call makes one value or none. It says which, and the counter is of no account to it. -/
theorem getOrInsert_counting (start : W) (count : Nat) :
    getOrInsert around.counting config key (counted make) (start, count) =
      (let memo := getOrInsert around config key make start
      (memo.1, (memo.2, if memo.1.2.isSome then count + 1 else count))) := by
  cases hanswer : ((around.cache start).get config (around.alive start) key).answer with
  | some value => simp [getOrInsert, Surroundings.counting, hanswer]
  | none => simp [getOrInsert, Surroundings.counting, counted, hanswer]

/-- How many values a memoized call makes. -/
def runs (config : CacheConfig H K) (key : K) (make : World H K V → (V × ι) × World H K V)
    (before : World H K V) : Nat :=
  (getOrInsert worldly.counting config key (counted make) (before, 0)).2.2

theorem runs_eq (config : CacheConfig H K) (key : K)
    (make : World H K V → (V × ι) × World H K V) (before : World H K V) :
    runs config key make before =
      if (getOrInsert worldly config key make before).1.2.isSome then 1 else 0 := by
  rw [runs, getOrInsert_counting]

end Counting

/-! ## The two lookups -/

namespace World

/-- The live slots of a world. -/
def liveSlots (world : World H K V) : List (Slot K V) :=
  world.cache.slots.filter (·.isLive world.alive)

/-- Some live slot belongs to the key. -/
def Has (config : CacheConfig H K) (world : World H K V) (key : K) : Prop :=
  ∃ slot, Holds config.strategy world.alive world.cache key slot

variable {config : CacheConfig H K} {world : World H K V} {key : K} {slot : Slot K V}

omit [DecidableEq K] in
theorem Orderly.get_of_not_has (h : world.Orderly config) (hnone : ¬world.Has config key) :
    (world.cache.get config world.alive key).answer = none := by
  cases hanswer : (world.cache.get config world.alive key).answer with
  | none => rfl
  | some value =>
    obtain ⟨slot, -, hholds⟩ := holds_of_get h hanswer
    exact absurd ⟨slot, hholds⟩ hnone

omit [DecidableEq K] in
/-- The slot of a key is the only one that is listed under an equal key. -/
theorem Orderly.entries_of_holds (hc : config.strategy.Consistent)
    (h : world.Orderly config)
    (hholds : Holds config.strategy world.alive world.cache key slot) :
    ∃ owner, (world.cache.entries world.alive).filter (config.strategy.equal ·.1 key) =
      [(owner, slot.value)] := by
  obtain ⟨owner, howner, hequal⟩ :=
    (Option.any_eq_true ..).mp (h.coherent.answers hc hholds)
  have hentry : (owner, slot.value) ∈
      (world.cache.entries world.alive).filter (config.strategy.equal ·.1 key) := by
    refine List.mem_filter.mpr ⟨List.mem_filterMap.mpr ⟨slot, hholds.mem, ?_⟩, hequal⟩
    rw [howner, Option.map_some]
  have hone : ((world.cache.entries world.alive).filter
      (config.strategy.equal ·.1 key)).length ≤ 1 := by
    refine length_filter_le_one h.coherent.entries_apart fun first _ second _ hapart hfirst => ?_
    by_contra hsecond
    rw [Bool.not_eq_false] at hsecond
    rw [hc.trans hfirst (hc.symm hsecond)] at hapart
    cases hapart
  obtain ⟨entry, hentries⟩ := List.length_eq_one_iff.mp
    (Nat.le_antisymm hone (List.length_pos_of_mem hentry))
  rw [hentries, List.mem_singleton] at hentry
  exact ⟨owner, hentry ▸ hentries⟩

section Settle

variable (h : world.Orderly config) (living : world.alive key = true) (made : V)
include h living

/-- A slot that belongs to the key by now is kept. The key becomes an owner, and nothing else
changes. -/
theorem Orderly.settle_of_holds (hc : config.strategy.Consistent)
    (hholds : Holds config.strategy world.alive world.cache key slot) :
    (world.cache.settle config world.alive key made).answer = slot.value ∧
      ∃ rest, world.liveSlots.Perm (slot :: rest) ∧
        (world.step config (.settle key made)).liveSlots.Perm
          (slot.addOwner world.alive key :: rest) := by
  obtain ⟨middle, hready, ⟨hmisses, -⟩ | ⟨front, found, behind, hhits, hanswer, -, hcache⟩⟩ :=
    settle_cases config world.alive h.wellFormed key made
  · exact absurd hholds (hmisses.not_holds hc h.filed h.coherent hready)
  · obtain rfl := h.coherent.unique hc hholds (.of_hits hready hhits)
    refine ⟨hanswer, ?_⟩
    rw [step_settle living]
    simp only [liveSlots, hcache]
    exact live_replaced hready.toTidied hhits hholds.live (slot.isLive_addOwner living)

/-- Where no slot belongs to the key, a new one does. -/
theorem Orderly.settle_of_not_has (hnone : ¬world.Has config key) :
    (world.cache.settle config world.alive key made).answer = made ∧
      (world.step config (.settle key made)).liveSlots.Perm (⟨[key], made⟩ :: world.liveSlots) := by
  obtain ⟨middle, hready, ⟨hmisses, hanswer, -, hcache⟩ | ⟨front, found, behind, hhits, -⟩⟩ :=
    settle_cases config world.alive h.wellFormed key made
  · refine ⟨hanswer, ?_⟩
    rw [step_settle living]
    simp only [liveSlots, hcache]
    exact live_added _ hready.toTidied (Slot.isLive_singleton living)
  · exact absurd ⟨found, .of_hits hready hhits⟩ hnone

end Settle

end World

/-! ## What a memoized call comes to -/

/-- A memoized call for a key that starts in `before`, returns `value` and leaves `after`. Where it
makes a value, that is `made`, and `inside` is what the making leaves. -/
structure Memoizes (config : CacheConfig H K) (key : K) (before inside after : World H K V)
    (made value : V) (runs : Nat) : Prop where
  found : ∀ slot, Holds config.strategy before.alive before.cache key slot →
    runs = 0 ∧ value = slot.value
  ran : ¬before.Has config key → runs = 1
  /-- What was stored meanwhile stays, and what was made is dropped. -/
  kept : ¬before.Has config key →
    ∀ slot, Holds config.strategy inside.alive inside.cache key slot → value = slot.value ∧
      ∃ rest, inside.liveSlots.Perm (slot :: rest) ∧
        after.liveSlots.Perm (slot.addOwner inside.alive key :: rest)
  stored : ¬before.Has config key → ¬inside.Has config key →
    value = made ∧ after.liveSlots.Perm (⟨[key], made⟩ :: inside.liveSlots)
  /-- One entry is listed under an equal key. -/
  listed : ∃ owner, (after.cache.entries after.alive).filter (config.strategy.equal ·.1 key) =
    [(owner, value)]
  next : (after.cache.get config after.alive key).answer = some value

section Outcome

variable {ι : Type} {config : CacheConfig H K} {key : K} {before : World H K V}
  (hc : config.strategy.Consistent) (ho : before.Orderly config)
  (make : World H K V → (V × ι) × World H K V)
include hc ho

/-- A call that finds a value at once does no more than look it up. -/
theorem memoizes_of_holds {slot : Slot K V}
    (hholds : Holds config.strategy before.alive before.cache key slot) (inside : World H K V)
    (made : V) :
    let memo := getOrInsert worldly config key make before
    Memoizes config key before inside memo.2 made memo.1.1 (runs config key make before) := by
  have hmemo : getOrInsert worldly config key make before =
      ((slot.value, none), before.step config (.call (.get key))) :=
    getOrInsert_of_some config make (ho.get_of_holds hc hholds)
  have hasked := ho.step hc (.call (.get key))
  have hready := (get_ready config before.alive ho.wellFormed key).1
  have hstill : Holds config.strategy (before.step config (.call (.get key))).alive
      (before.step config (.call (.get key))).cache key slot :=
    (Holds.tidied_iff hready.toTidied).mpr hholds
  have hnot {P : Prop} (hnone : ¬before.Has config key) : P := absurd ⟨slot, hholds⟩ hnone
  rw [runs_eq, hmemo]
  refine ⟨fun other hother => ⟨rfl, ?_⟩, hnot, hnot, hnot, hasked.entries_of_holds hc hstill,
    hasked.get_of_holds hc hstill⟩
  rw [ho.coherent.unique hc hother hholds]

/-- A call that finds nothing makes a value and looks again in the world that this leaves. -/
theorem memoizes_of_not_has (hnone : ¬before.Has config key)
    (hinside : (make (before.step config (.call (.get key)))).2.Orderly config)
    (living : (make (before.step config (.call (.get key)))).2.alive key = true) :
    let inner := make (before.step config (.call (.get key)))
    let memo := getOrInsert worldly config key make before
    Memoizes config key before inner.2 memo.2 inner.1.1 memo.1.1 (runs config key make before) := by
  rw [runs_eq, getOrInsert_of_none config make (ho.get_of_not_has hnone) living]
  generalize make (before.step config (.call (.get key))) = inner at hinside living
  obtain ⟨⟨made, extra⟩, inside⟩ := inner
  -- either way the key owns a slot with the value now
  have hkeeps := Keeps.settled hc hinside living made
  obtain ⟨slot, hvalue, -, hholds⟩ := hkeeps.holds hc
  have hlisted := hkeeps.entries_of_holds hc hholds
  rw [hvalue] at hlisted
  exact {
    found := fun slot hslot => absurd ⟨slot, hslot⟩ hnone
    ran := fun _ => rfl
    kept := fun _ slot hslot => hinside.settle_of_holds living made hc hslot
    stored := fun _ hnone => hinside.settle_of_not_has living made hnone
    listed := hlisted
    next := hkeeps.get hc }

end Outcome

/-- A memoized call makes a value at most once, and only if none was stored before. A value that was
stored while it was made wins, however deep in calls within calls that was. -/
theorem memoizes_reentrant {ι : Type} {config : CacheConfig H K} (hc : config.strategy.Consistent)
    {before : World H K V} (hbefore : Course config [] {} before) (key : K)
    (living : before.alive key = true) (make : World H K V → (V × ι) × World H K V)
    (hmake : Course config [key] (before.step config (.call (.get key)))
      (make (before.step config (.call (.get key)))).2) :
    let inner := make (before.step config (.call (.get key)))
    let memo := getOrInsert worldly config key make before
    Memoizes config key before inner.2 memo.2 inner.1.1 memo.1.1 (runs config key make before) := by
  have ho : before.Orderly config := World.Orderly.start.course hc hbefore
  by_cases hhas : before.Has config key
  · obtain ⟨slot, hholds⟩ := hhas
    exact memoizes_of_holds hc ho make hholds _ _
  · obtain ⟨moves, hheld, hstate⟩ := hmake.exists_moves
    have hinside := (ho.step hc (.call (.get key))).course hc hmake
    refine memoizes_of_not_has hc ho make hhas hinside ?_
    rw [hstate]
    exact World.alive_run living (hheld key List.mem_cons_self)

/-- Three calls, each within the making of the one before, and the innermost for the same key as the
outermost. The innermost value is stored, and the two calls around it return it. -/
theorem memoizes_reentrant_thrice :
    let config : CacheConfig KeyDigest KeyObject := { strategy := KeyMatching.natural.strategy }
    let innermost (world : World KeyDigest KeyObject Nat) := ((3, ()), world)
    let middle (world : World KeyDigest KeyObject Nat) :=
      let memo := getOrInsert worldly config ⟨0, "a"⟩ innermost world
      ((memo.1.1 + 4, ()), memo.2)
    let outermost (world : World KeyDigest KeyObject Nat) :=
      let memo := getOrInsert worldly config ⟨1, "a"⟩ middle world
      ((memo.1.1 + 5, ()), memo.2)
    let before := (({} : World KeyDigest KeyObject Nat).step config (.key (.birth ⟨0, "a"⟩))).step
      config (.key (.birth ⟨1, "a"⟩))
    let inner := outermost (before.step config (.call (.get ⟨0, "a"⟩)))
    let memo := getOrInsert worldly config ⟨0, "a"⟩ outermost before
    inner.1.1 = 8 ∧ memo.1.1 = 3 ∧ memo.2.cache.slots = [⟨[⟨0, "a"⟩, ⟨1, "a"⟩], 3⟩] ∧
      Memoizes config ⟨0, "a"⟩ before inner.2 memo.2 8 3 1 := by
  intro config innermost middle outermost before inner memo
  have hc : config.strategy.Consistent := KeyMatching.consistent (by decide) (by decide)
  have hbefore : Course config [] {} before := .key _ (by simp) (.key _ (by simp) .ended)
  have hmiddle (world : World KeyDigest KeyObject Nat) (hfirst : world.alive ⟨0, "a"⟩ = true) :
      Course config [⟨1, "a"⟩, ⟨0, "a"⟩] world (middle world).2 :=
    .memo ⟨0, "a"⟩ innermost hfirst (fun _ => .ended) .ended
  have houtermost (world : World KeyDigest KeyObject Nat) (hfirst : world.alive ⟨0, "a"⟩ = true)
      (hsecond : world.alive ⟨1, "a"⟩ = true) :
      Course config [⟨0, "a"⟩] world (outermost world).2 :=
    .memo ⟨1, "a"⟩ middle hsecond (fun _ => hmiddle _ hfirst) .ended
  have hliving : before.alive ⟨0, "a"⟩ = true := by decide
  have hmade : inner.1.1 = 8 := by decide
  have hvalue : memo.1.1 = 3 := by decide
  have hruns : runs config ⟨0, "a"⟩ outermost before = 1 := by decide
  have hmemoizes : Memoizes config ⟨0, "a"⟩ before inner.2 memo.2 inner.1.1 memo.1.1
      (runs config ⟨0, "a"⟩ outermost before) :=
    memoizes_reentrant hc hbefore ⟨0, "a"⟩ hliving outermost (houtermost _ hliving (by decide))
  rw [hmade, hvalue, hruns] at hmemoizes
  exact ⟨hmade, hvalue, by decide, hmemoizes⟩

end PluginHost.Cache
