import PluginHost.Cache.KeyObject
import PluginHost.Proofs.Cache.Coherence
import PluginHost.Proofs.Cache.Exchange

/-!
# How long a memoized value lasts

Whoever calls for a memoized value holds a key. If the key is an owner of the slot, the value is
there for as long as the key lives and nobody stores, removes or clears under it. Made values get
the key as an owner, and so do values that were found after making one in vain. A value that was
found at once does not: it lasts only if the key was an owner before.
-/
namespace PluginHost.Cache

variable {H K V ι : Type} [DecidableEq H] [DecidableEq K]

/-! ## Runs that spare a key -/

section Spares

variable (config : CacheConfig H K) (key : K)

/-- The key stays alive, and the move does not store, remove or clear under an equal one. -/
def Spares (world : World H K V) : Move K V → Prop
  | .key event => event ≠ .death key
  | .call (.put other _) | .call (.putWeak (some other) _) =>
    world.alive other = true → config.strategy.equal key other = false
  | .call (.remove probe) => config.strategy.equal key probe = false
  | .call .clear => False
  | _ => True

/-- Every move of a run spares the key. -/
def SparesAll (world : World H K V) : List (Move K V) → Prop
  | [] => True
  | move :: moves =>
    Spares config key world move ∧ SparesAll (world.step config move) moves

/-- From here on every lookup under the key finds the value, and no memoized call makes one. -/
def Lasting (value : V) (world : World H K V) : Prop :=
  ∀ moves, SparesAll config key world moves →
    let later := world.run config moves
    (later.cache.get config later.alive key).answer = some value ∧
      (later.cache.contains config later.alive key).answer = true ∧
      ∀ (ι : Type) (make : World H K V → (V × ι) × World H K V),
        (getOrInsert worldly config key make later).1 = (value, none)

/-- What makes a value is itself a run, during which the key is held. -/
def MakesHolding (make : World H K V → (V × ι) × World H K V) : Prop :=
  ∀ asked, ∃ moves, .key (.death key) ∉ moves ∧ (make asked).2 = asked.run config moves

variable {config key}

theorem sparesAll_keys {events : List (KeyEvent K)} (h : .death key ∉ events)
    (world : World H K V) : SparesAll config key world (events.map .key) := by
  induction events generalizing world with
  | nil => trivial
  | cons event events ih =>
    refine ⟨fun heq => h ?_, ih (fun hmem => h (List.mem_cons_of_mem _ hmem)) _⟩
    rw [heq]
    exact List.mem_cons_self

theorem World.alive_step {world : World H K V} {move : Move K V} (h : world.alive key = true)
    (hmove : move ≠ .key (.death key)) : (world.step config move).alive key = true := by
  cases move with
  | key event => exact Fates.alive_after h fun heq => hmove (heq ▸ rfl)
  | call call => exact h
  | settle key made => exact h

theorem World.alive_run {world : World H K V} {moves : List (Move K V)}
    (h : world.alive key = true) (hmoves : .key (.death key) ∉ moves) :
    (world.run config moves).alive key = true := by
  induction moves generalizing world with
  | nil => exact h
  | cons move moves ih =>
    refine ih (World.alive_step h fun heq => hmoves ?_) fun hmem =>
      hmoves (List.mem_cons_of_mem _ hmem)
    rw [heq]
    exact List.mem_cons_self

/-- Deaths make nothing alive, and leave nothing alive that they name. -/
theorem Fates.alive_of_alive_deaths {fates : Fates K} {keys : List K}
    (h : ((keys.map KeyEvent.death).foldl after fates).alive key = true) :
    fates.alive key = true ∧ key ∉ keys := by
  induction keys generalizing fates with
  | nil => exact ⟨h, List.not_mem_nil⟩
  | cons first keys ih =>
    obtain ⟨halive, hrest⟩ := ih h
    rw [alive_iff] at halive
    simp only [after] at halive
    by_cases hsame : key = first
    · subst hsame
      split at halive
      · rw [Function.update_self] at halive
        cases halive
      · exact absurd halive ‹_›
    · refine ⟨alive_iff.mpr ?_, by simp [hsame, hrest]⟩
      split at halive
      · rwa [Function.update_of_ne hsame] at halive
      · exact halive

end Spares

/-! ## The slot that a living key owns -/

variable {config : CacheConfig H K} {world : World H K V} {key : K} {value : V}

omit [DecidableEq K] in
/-- A lookup finds the slot that belongs to the key. -/
theorem World.Orderly.get_of_holds (hc : config.strategy.Consistent) (ho : world.Orderly config)
    {slot : Slot K V} (hholds : Holds config.strategy world.alive world.cache key slot) :
    (world.cache.get config world.alive key).answer = some slot.value := by
  obtain ⟨hready, hanswer⟩ := get_ready config world.alive ho.wellFormed key
  rw [hanswer, hholds.find? hc ho.filed ho.coherent hready, Option.map_some]

/-- A living key owns a slot with this value. -/
structure Keeps (config : CacheConfig H K) (world : World H K V) (key : K) (value : V) : Prop
    extends World.Orderly config world where
  living : world.alive key = true
  owned : ∃ slot ∈ world.cache.slots, slot.value = value ∧ key ∈ slot.owners

namespace Keeps

omit [DecidableEq K] in
theorem holds (hc : config.strategy.Consistent) (h : Keeps config world key value) :
    ∃ slot, slot.value = value ∧ key ∈ slot.owners ∧
      Holds config.strategy world.alive world.cache key slot := by
  obtain ⟨slot, hslot, hvalue, howner⟩ := h.owned
  exact ⟨slot, hvalue, howner, .of_owner hc h.living hslot howner⟩

omit [DecidableEq K] in
theorem get (hc : config.strategy.Consistent) (h : Keeps config world key value) :
    (world.cache.get config world.alive key).answer = some value := by
  obtain ⟨slot, hvalue, -, hholds⟩ := h.holds hc
  rw [h.get_of_holds hc hholds, hvalue]

omit [DecidableEq K] in
theorem contains (hc : config.strategy.Consistent) (h : Keeps config world key value) :
    (world.cache.contains config world.alive key).answer = true := by
  obtain ⟨slot, -, -, hholds⟩ := h.holds hc
  obtain ⟨hready, hanswer⟩ := contains_ready config world.alive h.wellFormed key
  rw [hanswer, hholds.find? hc h.filed h.coherent hready, Option.isSome_some]

/-- A move that spares the key leaves it its slot. -/
theorem step (hc : config.strategy.Consistent) (h : Keeps config world key value)
    {move : Move K V} (hspares : Spares config key world move) :
    Keeps config (world.step config move) key value := by
  classical
  obtain ⟨slot, hvalue, howner, hholds⟩ := h.holds hc
  -- a slot that answers to another key has an owner that equals both
  have hother {other : K} (hanswers : slot.answers config.strategy world.alive other = true)
      (hne : config.strategy.equal key other = false) : False := by
    obtain ⟨x, hx, -, hxother⟩ := Slot.exists_owner_of_answers hanswers
    rw [hc.trans (h.coherent.alike slot hholds.mem key howner x hx) hxother] at hne
    cases hne
  have hmove : move ≠ .key (.death key) := by
    rintro rfl
    exact hspares rfl
  refine ⟨h.toOrderly.step hc move, World.alive_step h.living hmove, ?_⟩
  have hexchange : Exchange config world.alive world.cache move (world.respond config move) :=
    exchange_respond h.wellFormed move
  have hdead : slot.isLive world.alive = false → ∀ owner ∈ [key], world.fates owner = .dead := by
    rw [hholds.live]
    intro hfalse
    cases hfalse
  rcases hexchange.stays_or_departs hholds.mem hdead with ⟨later, hlater, hsame, howners⟩ | hdeparts
  · exact ⟨later, hlater, hsame.trans hvalue, howners key howner h.living⟩
  · cases hdeparts with
    | replaced other _ hstores living hanswers =>
      rcases hstores with rfl | rfl
      · exact (hother hanswers (hspares living)).elim
      · exact (hother hanswers (hspares living)).elim
    | removed probe hremove hanswers =>
      subst hremove
      exact (hother hanswers hspares).elim
    | cleared hclear =>
      subst hclear
      exact hspares.elim
    | swept _ hswept =>
      have hliving : world.fates key = .living := Fates.alive_iff.mp h.living
      rw [hswept key List.mem_cons_self] at hliving
      cases hliving

theorem lasting (hc : config.strategy.Consistent) (h : Keeps config world key value) :
    Lasting config key value world := by
  intro moves hspares
  have hlater : Keeps config (world.run config moves) key value := by
    induction moves generalizing world with
    | nil => exact h
    | cons move moves ih => exact ih (h.step hc hspares.1) hspares.2
  refine ⟨hlater.get hc, hlater.contains hc, fun ι make => ?_⟩
  rw [getOrInsert_of_some config make (hlater.get hc)]

/-- The second half of a memoized call makes the key an owner, whether it stores or finds. -/
theorem settled (hc : config.strategy.Consistent) (ho : world.Orderly config)
    (living : world.alive key = true) (made : V) :
    Keeps config (world.step config (.settle key made)) key
      (world.cache.settle config world.alive key made).answer := by
  refine ⟨ho.step hc (.settle key made), living, ?_⟩
  rw [World.step_settle living]
  obtain ⟨middle, hready, ⟨-, hanswer, -, hcache⟩ |
    ⟨front, slot, behind, hhits, hanswer, -, hcache⟩⟩ :=
    settle_cases config world.alive ho.wellFormed key made
  · rw [hanswer]
    simp only [hcache]
    exact ⟨_, mem_slots_push.mpr (.inl rfl), rfl, List.mem_singleton_self key⟩
  · rw [hanswer]
    simp only [hcache]
    obtain ⟨rest, -, hafter⟩ := slots_replace hhits.split
    exact ⟨slot.addOwner world.alive key, (hafter _).mem_iff.mpr List.mem_cons_self, rfl,
      Slot.mem_addOwner.mpr (.inl rfl)⟩

end Keeps

/-! ## The slot that others own -/

omit [DecidableEq K] in
/-- What a lookup finds is the value of a slot that belongs to the key. -/
theorem holds_of_get (ho : world.Orderly config)
    (hanswer : (world.cache.get config world.alive key).answer = some value) :
    ∃ slot, slot.value = value ∧ Holds config.strategy world.alive world.cache key slot := by
  obtain ⟨hready, hfound⟩ := get_ready config world.alive ho.wellFormed key
  rw [hanswer] at hfound
  rcases misses_or_hits config.strategy world.alive key
    ((world.cache.get config world.alive key).cache.shelf (config.strategy.hash key)) with
    hmisses | ⟨front, slot, behind, hhits⟩
  · rw [hmisses.find?] at hfound
    cases hfound
  · rw [hhits.find?] at hfound
    exact ⟨slot, (Option.some.inj hfound).symm, Holds.of_hits hready hhits⟩

/-- Where a key does not own the slot that belongs to it, the owners can die and leave nothing to
find under the key. -/
theorem not_lasting (hc : config.strategy.Consistent) (ho : world.Orderly config)
    {slot : Slot K V} (hholds : Holds config.strategy world.alive world.cache key slot)
    (howner : key ∉ slot.owners) : ¬Lasting config key value world := by
  intro hlasting
  let deaths := slot.owners.map KeyEvent.death
  have hdeaths : KeyEvent.death key ∉ deaths := by
    simpa [deaths] using howner
  have hanswer := (hlasting (deaths.map .key) (sparesAll_keys hdeaths world)).1
  have horderly : (world.run config (deaths.map .key)).Orderly config := ho.run hc _
  obtain ⟨other, -, hother⟩ := holds_of_get horderly hanswer
  -- it belonged to the key before, so it is the slot whose owners died
  have hbefore := ho.toSound.holds_of_keys deaths hother
  rw [ho.coherent.unique hc hbefore hholds] at hother
  obtain ⟨owner, hmem, hlives⟩ := Slot.isLive_iff.mp hother.live
  rw [World.run_keys] at hlives
  exact (Fates.alive_of_alive_deaths hlives).2 hmem

/-- The value of a memoized call lasts as long as the key exactly if it was made for this call or
the key owned a slot before: a value that is found at once does not get the key as an owner. -/
theorem memoized_lasts_iff (config : CacheConfig H K) (hc : config.strategy.Consistent)
    (moves : List (Move K V)) (key : K) (make : World H K V → (V × ι) × World H K V)
    (living : (({} : World H K V).run config moves).alive key = true)
    (hmake : MakesHolding config key make) :
    let before := ({} : World H K V).run config moves
    let memo := getOrInsert worldly config key make before
    Lasting config key memo.1.1 memo.2 ↔
      memo.1.2.isSome = true ∨ ∃ slot ∈ before.cache.slots, key ∈ slot.owners := by
  have ho : (({} : World H K V).run config moves).Orderly config := World.Orderly.start.run hc moves
  generalize ({} : World H K V).run config moves = before at living ho
  have hready := (get_ready config before.alive ho.wellFormed key).1
  cases hanswer : (before.cache.get config before.alive key).answer with
  | some value =>
    simp only [getOrInsert_of_some config make hanswer, Option.isSome_none, Bool.false_eq_true,
      false_or]
    obtain ⟨slot, hvalue, hholds⟩ := holds_of_get ho hanswer
    constructor
    · intro hlasting
      refine ⟨slot, hholds.mem, ?_⟩
      by_contra howner
      exact not_lasting hc (ho.step hc (.call (.get key)))
        ((Holds.tidied_iff hready.toTidied).mpr hholds) howner hlasting
    · rintro ⟨other, hother, howner⟩
      have hlive : other.isLive before.alive = true := Slot.isLive_iff.mpr ⟨key, howner, living⟩
      have hsame := ho.coherent.unique hc hholds ⟨hother, hlive, key, howner, hc.refl key⟩
      have hkeeps : Keeps config before key value :=
        ⟨ho, living, slot, hholds.mem, hvalue, hsame ▸ howner⟩
      have hspares : Spares config key before (.call (.get key)) := trivial
      exact (hkeeps.step hc hspares).lasting hc
  | none =>
    obtain ⟨inside, hheld, hstate⟩ := hmake (before.step config (.call (.get key)))
    have hstill : (make (before.step config (.call (.get key)))).2.alive key = true := by
      rw [hstate]
      exact World.alive_run living hheld
    have hlater : (make (before.step config (.call (.get key)))).2.Orderly config := by
      rw [hstate]
      exact (ho.step hc (.call (.get key))).run hc inside
    simp only [getOrInsert_of_none config make hanswer hstill, Option.isSome_some, true_or,
      iff_true]
    exact (Keeps.settled hc hlater hstill _).lasting hc

/-- While a value is made under the second of two equal keys, one is stored under the first. It is
found then, and lasts as long as the second key. -/
theorem memoized_lasts_found_late :
    let config : CacheConfig KeyDigest KeyObject := { strategy := KeyMatching.natural.strategy }
    let moves : List (Move KeyObject Nat) := [.key (.birth ⟨0, "a"⟩), .key (.birth ⟨1, "a"⟩)]
    let make (asked : World KeyDigest KeyObject Nat) :=
      ((8, ()), asked.run config [.call (.put ⟨0, "a"⟩ 9)])
    let before := ({} : World KeyDigest KeyObject Nat).run config moves
    config.strategy.Consistent ∧ before.alive ⟨1, "a"⟩ = true ∧
      MakesHolding config ⟨1, "a"⟩ make ∧
      (getOrInsert worldly config ⟨1, "a"⟩ make before).1 = (9, some ()) ∧
      Lasting config ⟨1, "a"⟩ 9 (getOrInsert worldly config ⟨1, "a"⟩ make before).2 := by
  intro config moves make before
  have hc : config.strategy.Consistent := KeyMatching.consistent (by decide) (by decide)
  have hliving : before.alive ⟨1, "a"⟩ = true := by decide
  have hmake : MakesHolding config ⟨1, "a"⟩ make := fun asked =>
    ⟨[.call (.put ⟨0, "a"⟩ 9)], by decide, rfl⟩
  have hresult : (getOrInsert worldly config ⟨1, "a"⟩ make before).1 = (9, some ()) := by decide
  have hran : (getOrInsert worldly config ⟨1, "a"⟩ make before).1.2.isSome = true := by
    rw [hresult]
    rfl
  have hlasting : Lasting config ⟨1, "a"⟩ (getOrInsert worldly config ⟨1, "a"⟩ make before).1.1
      (getOrInsert worldly config ⟨1, "a"⟩ make before).2 :=
    (memoized_lasts_iff config hc moves ⟨1, "a"⟩ make hliving hmake).mpr (.inl hran)
  rw [hresult] at hlasting
  exact ⟨hc, hliving, hmake, hresult, hlasting⟩

/-- A value that is found at once is lost when the key it was stored under dies, though an equal key
that it was handed out for still lives. -/
theorem memoized_value_lost :
    let config : CacheConfig KeyDigest KeyObject := { strategy := KeyMatching.natural.strategy }
    let make (asked : World KeyDigest KeyObject Nat) := ((8, ()), asked)
    let before := ({} : World KeyDigest KeyObject Nat).run config
      [.key (.birth ⟨0, "a"⟩), .key (.birth ⟨1, "a"⟩), .call (.put ⟨0, "a"⟩ 7)]
    config.strategy.Consistent ∧ before.alive ⟨1, "a"⟩ = true ∧
      MakesHolding config ⟨1, "a"⟩ make ∧
      (getOrInsert worldly config ⟨1, "a"⟩ make before).1 = (7, none) ∧
      ¬Lasting config ⟨1, "a"⟩ 7 (getOrInsert worldly config ⟨1, "a"⟩ make before).2 := by
  refine ⟨KeyMatching.consistent (by decide) (by decide), by decide,
    fun asked => ⟨[], List.not_mem_nil, rfl⟩, by decide, fun hlasting => ?_⟩
  have hother : KeyEvent.death (⟨0, "a"⟩ : KeyObject) ≠ .death ⟨1, "a"⟩ := by decide
  have hfound := (hlasting [.key (.death ⟨0, "a"⟩)] ⟨hother, trivial⟩).1
  revert hfound
  decide

end PluginHost.Cache
