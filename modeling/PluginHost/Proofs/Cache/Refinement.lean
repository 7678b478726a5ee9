import PluginHost.Proofs.Cache.Mirror

/-!
# A cache answers like a register

Whatever the order of calls and of key events, a cache with a consistent strategy answers like a
register. One request keeps the two alike, so a run of requests does.
-/
namespace PluginHost.Cache

variable {H K V : Type} [DecidableEq K]

namespace Fates

/-- A key that is held lives through any events. -/
theorem alive_whileHeld {fates : Fates K} {key : K} (h : fates.alive key = true)
    (events : List (KeyEvent K)) :
    alive ((KeyEvent.whileHeld key events).foldl Fates.after fates) key = true := by
  induction events generalizing fates with
  | nil => exact h
  | cons event events ih =>
    rw [KeyEvent.whileHeld, List.filter_cons]
    split
    · rename_i hne
      exact ih (alive_after h (by simpa using hne))
    · exact ih h

end Fates

variable [DecidableEq H] {config : CacheConfig H K} {service : Service H K V}
  {register : Register K V}

namespace Service

/-- The state after the first half of a memoized call. -/
def ask (config : CacheConfig H K) (key : K) (service : Service H K V) : Service H K V :=
  surroundings.absorb ((service.world.cache.get config service.world.alive key).map fun _ => ())
    service

/-- What remains true of a service and a register that serve the same requests. -/
structure Refines (config : CacheConfig H K) (service : Service H K V)
    (register : Register K V) : Prop where
  orderly : service.world.Orderly config
  fates : register.fates = service.world.fates
  known : ∀ entry ∈ register.entries, ∀ owner ∈ entry.owners, register.fates owner ≠ .unmade
  mirrors : Mirrors service.world.alive service.world.cache service.swept register.entries

namespace Refines

omit [DecidableEq K] in
theorem start : Refines config ({} : Service H K V) ({} : Register K V) :=
  ⟨.start, rfl, fun _ hentry => by (cases hentry), .refl _, rfl⟩

theorem key (hc : config.strategy.Consistent) (h : Refines config service register)
    (event : KeyEvent K) :
    Refines config (service.witness [event])
      { register with fates := register.fates.after event } := by
  refine ⟨h.orderly.step hc (.key event), congrArg (Fates.after · event) h.fates,
    fun entry hentry owner howner => Fates.made_after event (h.known entry hentry owner howner),
    ?_, h.mirrors.count⟩
  -- owners on both sides were made, so the event gives life to none of them
  have hslots : ∀ slot ∈ service.world.cache.slots, ∀ owner ∈ slot.owners,
      (service.witness [event]).world.alive owner = true →
      service.world.alive owner = true := fun slot hslot owner howner halive =>
    Fates.alive_of_alive_after (h.orderly.known slot hslot owner howner) halive
  have hentries : ∀ entry ∈ register.entries, ∀ owner ∈ entry.owners,
      (service.witness [event]).world.alive owner = true →
      service.world.alive owner = true := fun entry hentry owner howner halive =>
    Fates.alive_of_alive_after (h.fates ▸ h.known entry hentry owner howner) halive
  have hlater := visible_perm (service.witness [event]).world.alive h.mirrors.seen
  rwa [visible_later hslots, visible_later hentries] at hlater

theorem witness (hc : config.strategy.Consistent) (h : Refines config service register)
    (events : List (KeyEvent K)) :
    Refines config (service.witness events)
      { register with fates := events.foldl Fates.after register.fates } := by
  induction events generalizing service register with
  | nil => exact h
  | cons event events ih => exact ih (h.key hc event)

theorem call (hc : config.strategy.Consistent) (h : Refines config service register)
    (call : Call K V) :
    Agrees ((service.serve config (.call call)).1, service.swept)
        (register.serve config.strategy.equal (.call call)).1 ∧
      Refines config (service.serve config (.call call)).2
        (register.serve config.strategy.equal (.call call)).2 := by
  have halive : register.fates.alive = service.world.alive := congrArg Fates.alive h.fates
  obtain ⟨hagrees, hafter⟩ := h.mirrors.perform hc h.orderly call
  simp only [serve, Register.serve, halive]
  refine ⟨hagrees, h.orderly.step hc (.call call), h.fates, ?_, hafter⟩
  intro entry hentry owner howner
  rcases Register.owner_mem_perform hentry howner with hliving | ⟨old, hold, howner⟩
  · rw [h.fates, Fates.alive_iff.mp hliving]
    decide
  · exact h.known old hold owner howner

/-- Nothing comes to belong to a key by key events alone. -/
theorem not_holds_witness (h : service.world.Sound config) {key : K}
    (hnone : ∀ slot, ¬Holds config.strategy service.world.alive service.world.cache key slot)
    (events : List (KeyEvent K)) (slot : Slot K V) :
    ¬Holds config.strategy (service.witness events).world.alive service.world.cache key slot := by
  intro hholds
  have hrun := World.run_keys config service.world events
  refine hnone slot (h.holds_of_keys events ?_)
  rw [hrun]
  exact hholds

theorem memo (hc : config.strategy.Consistent) (h : Refines config service register)
    (key : K) (made : V) (meanwhile : List (KeyEvent K)) :
    Agrees ((service.serve config (.memo key made meanwhile)).1, service.swept)
        (register.serve config.strategy.equal (.memo key made meanwhile)).1 ∧
      Refines config (service.serve config (.memo key made meanwhile)).2
        (register.serve config.strategy.equal (.memo key made meanwhile)).2 := by
  have halive : register.fates.alive = service.world.alive := congrArg Fates.alive h.fates
  by_cases hliving : service.world.alive key = true
  · obtain ⟨hready, hfound⟩ := get_ready config service.world.alive h.orderly.wellFormed key
    have hlookup := hfound.trans (h.mirrors.lookup hc h.orderly hready)
    have hasked : Refines config (service.ask config key) register :=
      ⟨h.orderly.step hc (.call (.get key)), h.fates, h.known, h.mirrors.tidied hready.toTidied⟩
    cases hvalue : Register.lookup? config.strategy.equal service.world.alive key
      register.entries with
    | some value =>
      have hanswer := hlookup.trans hvalue
      simp only [serve, Register.serve, halive, hliving, if_true, getOrInsert, surroundings,
        hanswer, hvalue]
      exact ⟨rfl, hasked⟩
    | none =>
      have hanswer := hlookup.trans hvalue
      -- the key has no slot yet, and no event until the value is made gives it one
      have hnone : ∀ slot, ¬Holds config.strategy service.world.alive
          (service.world.cache.get config service.world.alive key).cache key slot := by
        rcases misses_or_hits config.strategy service.world.alive key
          ((service.world.cache.get config service.world.alive key).cache.shelf
            (config.strategy.hash key)) with hmisses | ⟨_, _, _, hhits⟩
        · intro slot hholds
          exact hmisses.not_holds hc h.orderly.filed h.orderly.coherent hready
            ((Holds.tidied_iff hready.toTidied).mp hholds)
        · rw [hfound, hhits.find?] at hanswer
          cases hanswer
      have hlater := hasked.witness hc (KeyEvent.whileHeld key meanwhile)
      have hstill : ((service.ask config key).witness
          (KeyEvent.whileHeld key meanwhile)).world.alive key = true :=
        Fates.alive_whileHeld hliving meanwhile
      obtain ⟨hmade, hmirrors⟩ := hlater.mirrors.settle hlater.orderly hstill
        (not_holds_witness hasked.orderly.toSound hnone _) made
      have horderly := hlater.orderly.step hc (.settle key made)
      rw [World.step_settle hstill] at horderly
      simp only [serve, Register.serve, halive, hliving, if_true, getOrInsert, surroundings,
        hanswer, hvalue]
      refine ⟨congrArg (Reply.memoized · true) hmade, horderly, hlater.fates, ?_, hmirrors⟩
      intro entry hentry owner howner
      rcases List.mem_append.mp hentry with hentry | hentry
      · exact hlater.known entry hentry owner howner
      · rw [List.mem_singleton] at hentry
        subst hentry
        rw [List.mem_singleton.mp howner, hlater.fates, Fates.alive_iff.mp hstill]
        decide
  · simp only [serve, Register.serve, halive, hliving]
    exact ⟨rfl, h⟩

/-- A request is answered as the register answers it, and the two go on alike. -/
theorem serve (hc : config.strategy.Consistent) (h : Refines config service register)
    (request : Request K V) :
    Agrees ((service.serve config request).1, service.swept)
        (register.serve config.strategy.equal request).1 ∧
      Refines config (service.serve config request).2
        (register.serve config.strategy.equal request).2 := by
  cases request with
  | key event => exact ⟨rfl, h.key hc event⟩
  | call call => exact h.call hc call
  | memo key made meanwhile => exact h.memo hc key made meanwhile

theorem replies (hc : config.strategy.Consistent) (h : Refines config service register)
    (requests : List (Request K V)) :
    List.Forall₂ Agrees (service.replies config requests)
      (register.replies config.strategy.equal requests) := by
  induction requests generalizing service register with
  | nil => exact .nil
  | cons request requests ih =>
    obtain ⟨hagrees, hnext⟩ := h.serve hc request
    exact .cons hagrees (ih hnext)

end Refines

end Service

/-- With a consistent strategy every run of requests is answered as by a register: a cache shows
nothing of its hashes, its buckets and its sweeps. -/
theorem answers_like_register (config : CacheConfig H K) (hc : config.strategy.Consistent)
    (requests : List (Request K V)) :
    List.Forall₂ Agrees (({} : Service H K V).replies config requests)
      (({} : Register K V).replies config.strategy.equal requests) :=
  Service.Refines.start.replies hc requests

/-- Two equal keys and a third one, all in one bucket. The second of the equal ones keeps the entry
when the first dies, and the third dies without being asked for again. -/
def crowdedRequests : List (Request KeyObject Nat) :=
  [.key (.birth ⟨0, "a"⟩), .key (.birth ⟨1, "a"⟩), .key (.birth ⟨2, "b"⟩),
    .call (.put ⟨0, "a"⟩ 10), .call (.put ⟨1, "a"⟩ 11),
    .memo ⟨2, "b"⟩ 20 [.death ⟨0, "a"⟩, .death ⟨2, "b"⟩], .memo ⟨1, "a"⟩ 21 [],
    .key (.death ⟨2, "b"⟩), .call .entries, .call .purge, .call (.remove ⟨0, "a"⟩), .call .size]

theorem answers_like_register_crowded :
    let config : CacheConfig KeyDigest KeyObject :=
      { strategy := KeyMatching.constantHash.strategy, sweepFloor := 4 }
    config.strategy.Consistent ∧
      (({} : Service KeyDigest KeyObject Nat).replies config crowdedRequests).map Prod.fst =
        [.acknowledged, .acknowledged, .acknowledged, .previous none, .previous (some 10),
          .memoized 20 true, .memoized 11 false, .acknowledged, .entries [(⟨1, "a"⟩, 11)],
          .purged 1, .previous (some 11), .count 0] ∧
      List.Forall₂ Agrees (({} : Service KeyDigest KeyObject Nat).replies config crowdedRequests)
        (({} : Register KeyObject Nat).replies config.strategy.equal crowdedRequests) :=
  have hc : KeyMatching.constantHash.strategy.Consistent :=
    KeyMatching.consistent (by decide) (by decide)
  ⟨hc, by decide, answers_like_register _ hc _⟩

end PluginHost.Cache
