import PluginHost.Proofs.Cache.World

/-!
# A register without hashes, buckets and sweeps

What a cache is for, said plainly. A register is a list of entries, each a value with its owners.
It hashes nothing, forgets no owner, and drops an entry only when it is told to. An entry is visible
while one of its owners is alive, and a key finds the first entry that has a living owner equal to
it.
-/
namespace PluginHost

variable {H K V : Type}

namespace Slot

/-- Whether a key finds the slot by any of its living owners. -/
def isFor (equal : (stored probe : K) → Bool) (alive : K → Bool) (key : K)
    (slot : Slot K V) : Bool :=
  slot.owners.any fun owner => alive owner && equal owner key

/-- The slot with another value and with the key among its owners. None is forgotten. -/
def claim [DecidableEq K] (key : K) (value : V) (slot : Slot K V) : Slot K V :=
  { owners := if key ∈ slot.owners then slot.owners else slot.owners ++ [key], value := value }

end Slot

namespace Cache

/-- What is asked of a cache or of a register. -/
inductive Request (K V : Type) where
  /-- A key is made or dies. -/
  | key (event : KeyEvent K)
  | call (call : Call K V)
  /-- A memoized call that makes this value if it has to. Meanwhile keys are made and die, but not
  the one that was passed in, which the caller holds. -/
  | memo (key : K) (made : V) (meanwhile : List (KeyEvent K))
deriving DecidableEq, Repr

/-- The events that can happen while a key is held. -/
def KeyEvent.whileHeld [DecidableEq K] (key : K) (events : List (KeyEvent K)) :
    List (KeyEvent K) :=
  events.filter (· ≠ .death key)

/-- Entries, and the fates of the keys. -/
structure Register (K V : Type) where
  entries : List (Slot K V) := []
  fates : Fates K := fun _ => .unmade

namespace Register

section Entries

variable (equal : (stored probe : K) → Bool) (alive : K → Bool)

/-- The value under a key. -/
def lookup? (key : K) (entries : List (Slot K V)) : Option V :=
  (entries.find? (·.isFor equal alive key)).map (·.value)

/-- Replaces the value under a key, or appends an entry where there is none. -/
def store [DecidableEq K] (key : K) (value : V) : List (Slot K V) → List (Slot K V)
  | [] => [⟨[key], value⟩]
  | entry :: others =>
    if entry.isFor equal alive key then entry.claim key value :: others
    else entry :: store key value others

variable [DecidableEq K]

/-- The answer to a call and the entries after it. -/
def perform (entries : List (Slot K V)) : Call K V → Reply K V × List (Slot K V)
  | .put key value =>
    if alive key then
      (.previous (lookup? equal alive key entries), store equal alive key value entries)
    else (.impossible, entries)
  | .putWeak key? value =>
    match key?.filter alive with
    | some key =>
      (.previous (lookup? equal alive key entries), store equal alive key value entries)
    | none => (.refused .reclaimed, entries)
  | .get probe => (.found (lookup? equal alive probe entries), entries)
  | .contains probe => (.flag (lookup? equal alive probe entries).isSome, entries)
  | .remove probe =>
    (.previous (lookup? equal alive probe entries), entries.eraseP (·.isFor equal alive probe))
  | .size => (.count (entries.countP (·.isLive alive)), entries)
  | .isEmpty => (.flag (!entries.any (·.isLive alive)), entries)
  | .purge => (.purged (entries.countP (!·.isLive alive)), entries.filter (·.isLive alive))
  | .clear => (.acknowledged, [])
  | .entries =>
    (.entries (entries.filterMap fun entry => (entry.liveOwner? alive).map (·, entry.value)),
      entries)

end Entries

variable [DecidableEq K] (equal : (stored probe : K) → Bool)

/-- Serves a request. A memoized call that finds nothing appends an entry. -/
def serve (register : Register K V) : Request K V → Reply K V × Register K V
  | .key event => (.acknowledged, { register with fates := register.fates.after event })
  | .call call =>
    let (reply, entries) := perform equal register.fates.alive register.entries call
    (reply, { register with entries := entries })
  | .memo key made meanwhile =>
    if register.fates.alive key then
      match lookup? equal register.fates.alive key register.entries with
      | some value => (.memoized value false, register)
      | none =>
        (.memoized made true,
          { entries := register.entries ++ [⟨[key], made⟩],
            fates := (KeyEvent.whileHeld key meanwhile).foldl Fates.after register.fates })
    else (.impossible, register)

/-- The replies to requests made in turn. -/
def replies (register : Register K V) : List (Request K V) → List (Reply K V)
  | [] => []
  | request :: requests =>
    (register.serve equal request).1 :: replies (register.serve equal request).2 requests

end Register

/-! ## A cache that serves the same requests -/

/-- A world, and how many slots the cache dropped on its own account since it was last purged or
cleared. The latter is only watched: the cache does not know it. -/
structure Service (H K V : Type) where
  world : World H K V := {}
  swept : Nat := 0

namespace Service

variable [DecidableEq H] [DecidableEq K]

/-- A service as the surroundings of its cache. -/
def surroundings : Surroundings (Service H K V) H K V where
  cache := (·.world.cache)
  alive := (·.world.alive)
  absorb outcome service :=
    { world := { service.world with cache := outcome.cache }
      swept := service.swept + outcome.released.length }

/-- The state after key events. -/
def witness (service : Service H K V) (events : List (KeyEvent K)) : Service H K V :=
  { service with
    world := { service.world with fates := events.foldl Fates.after service.world.fates } }

/-- What counts as swept after a call that released so many slots. -/
def sweptAfter (swept released : Nat) : Call K V → Nat
  | .purge | .clear => 0
  | _ => swept + released

variable (config : CacheConfig H K)

/-- Serves a request. -/
def serve (service : Service H K V) : Request K V → Reply K V × Service H K V
  | .key event => (.acknowledged, service.witness [event])
  | .call call =>
    let outcome := call.perform config service.world.alive service.world.cache
    (outcome.answer,
      { world := { service.world with cache := outcome.cache }
        swept := sweptAfter service.swept outcome.released.length call })
  | .memo key made meanwhile =>
    if service.world.alive key then
      let ((value, ran), after) := getOrInsert surroundings config key
        (fun asked => ((made, ()), asked.witness (KeyEvent.whileHeld key meanwhile))) service
      (.memoized value ran.isSome, after)
    else (.impossible, service)

/-- The replies to requests made in turn, each with what counted as swept before it. -/
def replies (service : Service H K V) : List (Request K V) → List (Reply K V × Nat)
  | [] => []
  | request :: requests =>
    ((service.serve config request).1, service.swept) ::
      replies (service.serve config request).2 requests

end Service

/-- Whether a cache that swept so many slots answered like a register. Only a purge depends on it,
and entries are listed in any order. -/
def Agrees (answered : Reply K V × Nat) (expected : Reply K V) : Prop :=
  match answered.1, expected with
  | .purged ours, .purged theirs => ours + answered.2 = theirs
  | .entries ours, .entries theirs => ours.Perm theirs
  | ours, theirs => ours = theirs

end Cache

end PluginHost
