import Mathlib.Data.List.Induction
import Mathlib.Data.List.Nodup
import PluginHost.Proofs.Cache.World

/-!
# How a cache represents its slots

Whatever the strategy, and even if it changes its mind between two operations, the counters and the
buckets of a cache tell the truth: the number of stored slots is right, no bucket is empty, and
every owner of a slot was passed in by some earlier operation that hashed it to the bucket of the
slot. Stored keys are never hashed again, so nothing is asked of hashes or of equality here.
-/
namespace PluginHost.Cache

variable {H K V : Type}

/-! ## Turns -/

/-- A move and what the strategy is at that moment. -/
structure Turn (H K V : Type) where
  strategy : KeyStrategy H K
  move : Move K V

/-- The key that a move passes in to be stored. -/
def Move.entering? : Move K V → Option K
  | .call (.put owner _) => some owner
  | .call (.putWeak owner? _) => owner?
  | .settle owner _ => some owner
  | _ => none

/-- The key was passed in by one of the turns, and this was its hash then. -/
def Entered (turns : List (Turn H K V)) (key : K) (hash : H) : Prop :=
  ∃ turn ∈ turns, turn.move.entering? = some key ∧ turn.strategy.hash key = hash

variable [DecidableEq H] [DecidableEq K]

namespace World

/-- What becomes of a world in a turn, where full sweeps have this floor. -/
def turn (floor : UInt64) (world : World H K V) (turn : Turn H K V) : World H K V :=
  world.step ⟨turn.strategy, floor⟩ turn.move

/-- The world after turns, from the start. -/
def afterTurns (floor : UInt64) (turns : List (Turn H K V)) : World H K V :=
  turns.foldl (World.turn floor) {}

/-- What owners have in common is kept by a move, if the key that is passed in gets it under its own
hash. -/
theorem shelved_respond {config : CacheConfig H K} {world : World H K V} {P : H → List K → Prop}
    (hw : world.cache.WellFormed) (h : world.cache.Shelved P) (move : Move K V)
    (hnew : ∀ key, move.entering? = some key → P (config.strategy.hash key) [key])
    (hjoin : ∀ key, move.entering? = some key → ∀ slot : Slot K V,
      P (config.strategy.hash key) slot.owners →
        P (config.strategy.hash key) (slot.addOwner world.alive key).owners) :
    (world.respond config move).cache.Shelved P := by
  cases move with
  | key event => exact h
  | settle key made =>
    simp only [respond]
    split
    · exact h.settle hw made (hnew key rfl) (hjoin key rfl)
    · exact h
  | call call =>
    cases call with
    | put key value =>
      simp only [respond, Call.perform]
      split
      · exact h.put hw value (hnew key rfl) (hjoin key rfl)
      · exact h
    | putWeak key? value =>
      simp only [respond, Call.perform, putWeak]
      split
      · rename_i key hkey
        obtain ⟨hentering, -⟩ := Option.filter_eq_some_iff.mp hkey
        exact h.put hw value (hnew key hentering) (hjoin key hentering)
      · exact h
    | get probe => exact h.tidied (get_ready config world.alive hw probe).1.toTidied
    | contains probe => exact h.tidied (contains_ready config world.alive hw probe).1.toTidied
    | remove probe => exact h.remove hw probe
    | size => exact h.tidied (tidied_sweep hw world.alive)
    | isEmpty => exact h.tidied (tidied_sweep hw world.alive)
    | purge => exact h.tidied (tidied_sweep hw world.alive)
    | clear => exact .empty
    | entries => exact h

end World

/-! ## The representation -/

/-- There are owners, none of them twice, and each was passed in under this hash. -/
structure Owned (turns : List (Turn H K V)) (hash : H) (owners : List K) : Prop where
  nonempty : owners ≠ []
  nodup : owners.Nodup
  entered : ∀ owner ∈ owners, Entered turns owner hash

namespace Owned

variable {turns : List (Turn H K V)} {hash : H} {key : K}

omit [DecidableEq H] [DecidableEq K] in
theorem append {owners : List K} (h : Owned turns hash owners) (more : List (Turn H K V)) :
    Owned (turns ++ more) hash owners :=
  ⟨h.nonempty, h.nodup, fun owner howner =>
    have ⟨turn, hturn, hentered⟩ := h.entered owner howner
    ⟨turn, List.mem_append_left _ hturn, hentered⟩⟩

omit [DecidableEq H] [DecidableEq K] in
theorem singleton (h : Entered turns key hash) : Owned turns hash [key] :=
  ⟨List.cons_ne_nil _ _, List.nodup_singleton key, fun owner howner => by
    rwa [List.mem_singleton.mp howner]⟩

omit [DecidableEq H] in
theorem addOwner {slot : Slot K V} (hslot : Owned turns hash slot.owners)
    (h : Entered turns key hash) (alive : K → Bool) :
    Owned turns hash (slot.addOwner alive key).owners where
  nonempty := List.ne_nil_of_mem (Slot.mem_addOwner.mpr (.inl rfl))
  nodup := by
    have hheld : (slot.owners.filter alive).Nodup := hslot.nodup.filter _
    simp only [Slot.addOwner]
    split
    · exact hheld
    · rename_i hnew
      rw [← List.concat_eq_append]
      exact List.Nodup.concat hnew hheld
  entered := fun owner howner => by
    rcases Slot.mem_addOwner.mp howner with rfl | ⟨howner, -⟩
    · exact h
    · exact hslot.entered owner howner

end Owned

namespace World

variable (floor : UInt64) (turns : List (Turn H K V))

theorem afterTurns_concat (turn : Turn H K V) :
    afterTurns floor (turns ++ [turn]) = (afterTurns floor turns).turn floor turn :=
  List.foldl_concat ..

theorem wellFormed_afterTurns : (afterTurns floor turns).cache.WellFormed := by
  induction turns using List.reverseRecOn with
  | nil => exact .empty
  | append_singleton turns turn ih =>
    rw [afterTurns_concat]
    exact (change_respond ih turn.move).wellFormed

/-- Every slot is owned by keys that were passed in under the hash of its bucket. -/
theorem owned_afterTurns : (afterTurns floor turns).cache.Shelved (Owned turns) := by
  induction turns using List.reverseRecOn with
  | nil => exact .empty
  | append_singleton turns turn ih =>
    rw [afterTurns_concat]
    have hearlier : (afterTurns floor turns).cache.Shelved (Owned (turns ++ [turn])) :=
      ih.mono fun _ _ howned => howned.append [turn]
    have hentered : ∀ key, turn.move.entering? = some key →
        Entered (turns ++ [turn]) key (turn.strategy.hash key) := fun key hkey =>
      ⟨turn, List.mem_append_right _ (List.mem_singleton_self turn), hkey, rfl⟩
    exact shelved_respond (wellFormed_afterTurns floor turns) hearlier turn.move
      (fun key hkey => .singleton (hentered key hkey))
      (fun key hkey slot hslot => hslot.addOwner (hentered key hkey) _)

end World

/-- What the cache of a world is after these turns. -/
structure Represents (turns : List (Turn H K V)) (cache : Cache H K V) : Prop where
  /-- The number of stored slots is the sum of the sizes of the buckets. -/
  stored : cache.stored = cache.buckets.foldr (fun bucket sum => bucket.slots.length + sum) 0
  /-- No two buckets have the same hash. -/
  hashes : (cache.buckets.map (·.hash)).Nodup
  nonempty : ∀ bucket ∈ cache.buckets, bucket.slots ≠ []
  owned : ∀ bucket ∈ cache.buckets, ∀ slot ∈ bucket.slots, Owned turns bucket.hash slot.owners

theorem represents_afterTurns (floor : UInt64) (turns : List (Turn H K V)) :
    Represents turns (World.afterTurns floor turns).cache where
  stored := by
    rw [(World.wellFormed_afterTurns floor turns).stored, slotCount]
    induction (World.afterTurns floor turns).cache.buckets with
    | nil => rfl
    | cons bucket others ih => rw [Bucket.slotCount, ih, List.foldr_cons]
  hashes := (World.wellFormed_afterTurns floor turns).tidy.hashes
  nonempty := (World.wellFormed_afterTurns floor turns).tidy.nonempty
  owned := fun bucket hbucket slot hslot => by
    have htidy := (World.wellFormed_afterTurns floor turns).tidy
    refine World.owned_afterTurns floor turns bucket.hash slot ?_
    rwa [shelf, Bucket.slotsAt_of_mem htidy hbucket]

end PluginHost.Cache
