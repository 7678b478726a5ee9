import Mathlib.Logic.Function.Basic
import PluginHost.Cache.Memo
import PluginHost.Proofs.Cache.Calls

/-!
# A cache among keys that are made and die

Key objects are made, live for a while and die, and nothing brings a dead one back. A world holds a
cache and the fates of all keys; a move is an event in the life of a key or a critical section of
the cache. A memoized call is two moves, a `get` and a `settle`, with any moves in between: what
makes the value runs there. So a list of moves stands for every run of calls, nested ones included.
-/
namespace PluginHost.Cache

variable {H K V : Type}

/-- What became of a key object. -/
inductive Fate where
  | unmade
  | living
  | dead
deriving DecidableEq, Repr

/-- An event in the life of a key object. -/
inductive KeyEvent (K : Type) where
  | birth (key : K)
  | death (key : K)
deriving DecidableEq, Repr

/-- What became of each key object. -/
abbrev Fates (K : Type) := K → Fate

namespace Fates

/-- Whether a key is alive. -/
def alive (fates : Fates K) (key : K) : Bool := fates key = .living

/-- Only a key that was not made yet can be made, and only a living one can die. -/
def after [DecidableEq K] (fates : Fates K) : KeyEvent K → Fates K
  | .birth key => if fates key = .unmade then Function.update fates key .living else fates
  | .death key => if fates key = .living then Function.update fates key .dead else fates

theorem alive_iff {fates : Fates K} {key : K} : fates.alive key = true ↔ fates key = .living := by
  simp [alive]

variable [DecidableEq K] {fates : Fates K} {key : K}

theorem made_after (event : KeyEvent K) (h : fates key ≠ .unmade) :
    fates.after event key ≠ .unmade := by
  cases event <;> simp only [after] <;> split <;> grind [Function.update_apply]

theorem dead_after (event : KeyEvent K) (h : fates key = .dead) :
    fates.after event key = .dead := by
  cases event <;> simp only [after] <;> split <;> grind [Function.update_apply]

/-- No event gives life to a key that was made already. -/
theorem alive_of_alive_after {event : KeyEvent K} (h : fates key ≠ .unmade)
    (halive : (fates.after event).alive key = true) : fates.alive key = true := by
  rw [alive_iff] at halive ⊢
  cases event <;> simp only [after] at halive <;> split at halive <;>
    grind [Function.update_apply]

/-- A death gives life to no key. -/
theorem alive_of_alive_death {other : K}
    (halive : (fates.after (.death other)).alive key = true) : fates.alive key = true := by
  rw [alive_iff] at halive ⊢
  simp only [after] at halive
  split at halive <;> grind [Function.update_apply]

theorem after_death_of_ne {other : K} (hne : other ≠ key) :
    fates.after (.death key) other = fates other := by
  simp only [after]
  split
  · exact Function.update_of_ne hne ..
  · rfl

/-- A key dies of its own death only. -/
theorem alive_after {event : KeyEvent K} (h : fates.alive key = true) (hne : event ≠ .death key) :
    (fates.after event).alive key = true := by
  rw [alive_iff] at h ⊢
  cases event <;> simp only [after] <;> split <;> grind [Function.update_apply]

end Fates

/-- A cache and the fates of the keys. -/
structure World (H K V : Type) where
  cache : Cache H K V := {}
  fates : Fates K := fun _ => .unmade

/-- What moves a world. -/
inductive Move (K V : Type) where
  /-- A key is made or dies. -/
  | key (event : KeyEvent K)
  | call (call : Call K V)
  /-- The second half of a memoized call. -/
  | settle (key : K) (made : V)
deriving DecidableEq, Repr

variable [DecidableEq H] [DecidableEq K]

namespace World

variable (config : CacheConfig H K)

/-- Whether a key is alive. -/
def alive (world : World H K V) : K → Bool := world.fates.alive

/-- What the cache makes of a move. -/
def respond (world : World H K V) : Move K V → Outcome H K V (Reply K V)
  | .key _ => { answer := .acknowledged, cache := world.cache }
  | .call call => call.perform config world.alive world.cache
  | .settle key made =>
    if world.alive key then
      (world.cache.settle config world.alive key made).map fun value => .found (some value)
    else { answer := .impossible, cache := world.cache }

/-- The fates after a move. -/
def fatesAfter (world : World H K V) : Move K V → Fates K
  | .key event => world.fates.after event
  | .call _ | .settle .. => world.fates

/-- Makes a move. -/
def step (world : World H K V) (move : Move K V) : World H K V :=
  { cache := (world.respond config move).cache, fates := world.fatesAfter move }

/-- Makes moves in turn. -/
def run (world : World H K V) (moves : List (Move K V)) : World H K V :=
  moves.foldl (step config) world

@[simp] theorem run_nil (world : World H K V) : world.run config [] = world := rfl

@[simp] theorem run_cons (world : World H K V) (move : Move K V) (moves : List (Move K V)) :
    world.run config (move :: moves) = (world.step config move).run config moves := rfl

theorem run_append (world : World H K V) (first second : List (Move K V)) :
    world.run config (first ++ second) = (world.run config first).run config second :=
  List.foldl_append

/-- Key events leave the cache alone. -/
theorem run_keys (world : World H K V) (events : List (KeyEvent K)) :
    world.run config (events.map .key) =
      { world with fates := events.foldl Fates.after world.fates } := by
  induction events generalizing world with
  | nil => rfl
  | cons event events ih => exact ih (world.step config (.key event))

theorem step_put {config : CacheConfig H K} {world : World H K V} {key : K} {value : V}
    (h : world.alive key = true) :
    world.step config (.call (.put key value)) =
      { world with cache := (world.cache.put config world.alive key value).cache } := by
  simp only [step, respond, Call.perform, h, if_true]
  rfl

theorem step_settle {config : CacheConfig H K} {world : World H K V} {key : K} {made : V}
    (h : world.alive key = true) :
    world.step config (.settle key made) =
      { world with cache := (world.cache.settle config world.alive key made).cache } := by
  simp only [step, respond, h, if_true]
  rfl

end World

/-! ## Memoized calls -/

/-- A world as the surroundings of its cache. -/
def worldly : Surroundings (World H K V) H K V where
  cache := (·.cache)
  alive := World.alive
  absorb outcome world := { world with cache := outcome.cache }

section Memo

variable {ι : Type} (config : CacheConfig H K) {key : K} {world : World H K V}
  (make : World H K V → (V × ι) × World H K V)

theorem getOrInsert_of_some {value : V}
    (h : (world.cache.get config world.alive key).answer = some value) :
    getOrInsert worldly config key make world =
      ((value, none), world.step config (.call (.get key))) := by
  simp only [getOrInsert, worldly, h]
  rfl

theorem getOrInsert_of_none
    (h : (world.cache.get config world.alive key).answer = none)
    (living : (make (world.step config (.call (.get key)))).2.alive key = true) :
    getOrInsert worldly config key make world =
      (let made := make (world.step config (.call (.get key)))
      (((made.2.cache.settle config made.2.alive key made.1.1).answer, some made.1.2),
        made.2.step config (.settle key made.1.1))) := by
  simp only [getOrInsert, worldly, h]
  rw [World.step_settle living]
  rfl

end Memo

/-! ## What holds in every world -/

namespace World

variable {config : CacheConfig H K}

/-- The cache is well formed and filed, and the owners of its slots were made. -/
structure Sound (config : CacheConfig H K) (world : World H K V) : Prop where
  wellFormed : world.cache.WellFormed
  filed : world.cache.Filed config.strategy
  known : ∀ slot ∈ world.cache.slots, ∀ owner ∈ slot.owners, world.fates owner ≠ .unmade

omit [DecidableEq K] in
theorem Sound.start : Sound config ({} : World H K V) :=
  ⟨.empty, .empty, fun _ hslot => by cases hslot⟩

theorem change_respond {world : World H K V} (h : world.cache.WellFormed) (move : Move K V) :
    Change config world.alive world.cache (world.respond config move).cache
      (world.respond config move).released := by
  cases move with
  | key event => exact .tidied (.refl h)
  | call call => exact change_perform h call
  | settle key made =>
    simp only [respond]
    split
    · exact change_settle h ‹_› made
    · exact .tidied (.refl h)

omit [DecidableEq H] in
theorem made_fatesAfter {world : World H K V} (move : Move K V) {key : K}
    (h : world.fates key ≠ .unmade) : world.fatesAfter move key ≠ .unmade := by
  cases move with
  | key event => exact Fates.made_after event h
  | call call => exact h
  | settle key made => exact h

omit [DecidableEq H] in
theorem dead_fatesAfter {world : World H K V} (move : Move K V) {key : K}
    (h : world.fates key = .dead) : world.fatesAfter move key = .dead := by
  cases move with
  | key event => exact Fates.dead_after event h
  | call call => exact h
  | settle key made => exact h

theorem Sound.step {world : World H K V} (h : world.Sound config) (move : Move K V) :
    (world.step config move).Sound config := by
  have hchange : Change config world.alive world.cache (world.respond config move).cache
      (world.respond config move).released := change_respond h.wellFormed move
  refine ⟨hchange.wellFormed, hchange.filed h.filed, fun slot hslot owner howner => ?_⟩
  -- new owners are alive, old ones were known; what was made stays made
  refine made_fatesAfter move ?_
  rcases hchange.owner_mem hslot howner with halive | ⟨old, hold, howner⟩
  · rw [Fates.alive_iff.mp halive]
    decide
  · exact h.known old hold owner howner

theorem Sound.run {world : World H K V} (h : world.Sound config) (moves : List (Move K V)) :
    (world.run config moves).Sound config := by
  induction moves generalizing world with
  | nil => exact h
  | cons move moves ih => exact ih (h.step move)

end World

end PluginHost.Cache
