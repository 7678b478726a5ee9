import PluginHost.Cache.Slot
import PluginHost.Diagnostics.Event

/-!
# Caches whose keys may die

A cache stores values under keys that it does not keep alive. Dead slots answer nothing. They are
released lazily: every operation first releases those of the bucket that it touches, and once the
operations since the last full sweep are as many as the stored slots, and not fewer than a floor,
all of them.

Every operation takes the predicate `alive` as it is at that moment, and returns an `Outcome`: the
answer, the cache afterwards, and what the operation let go of.
-/
namespace PluginHost

/-- Slots in buckets, with the counters that decide when to sweep. -/
structure Cache (H K V : Type) where
  /-- The buckets. None is empty, and no two have the same hash. -/
  buckets : List (Bucket H K V) := []
  /-- The number of stored slots, dead ones included. -/
  stored : Nat := 0
  /-- The operations since the last full sweep. -/
  sinceSweep : Nat := 0
deriving DecidableEq, Repr

/-- Why a value could not be stored. -/
inductive KeyError where
  | reclaimed
deriving DecidableEq, Repr

def KeyError.message : KeyError → String
  | .reclaimed => "cannot insert a reclaimed key"

namespace Cache

/-- What an operation of a cache leads to. -/
structure Outcome (H K V α : Type) where
  answer : α
  cache : Cache H K V
  /-- The slots that were dropped with their values, in this order. -/
  released : List (Slot K V) := []
  /-- The values that were handed in and not stored. They are dropped after the released ones. -/
  refused : List V := []
  events : List Event := []
deriving Repr

namespace Outcome

variable {H K V α β : Type}

def map (change : α → β) (outcome : Outcome H K V α) : Outcome H K V β :=
  { answer := change outcome.answer, cache := outcome.cache, released := outcome.released,
    refused := outcome.refused, events := outcome.events }

/-- The values that the operation destroyed, in the order of their destruction. -/
def destroyed (outcome : Outcome H K V α) : List V :=
  outcome.released.map (·.value) ++ outcome.refused

end Outcome

variable {H K V : Type}

def slotCount (cache : Cache H K V) : Nat := Bucket.slotCount cache.buckets

/-- All slots, bucket by bucket. -/
def slots (cache : Cache H K V) : List (Slot K V) := cache.buckets.flatMap (·.slots)

/-- Releases every dead slot and starts to count operations anew. The answer is the number of
released slots. -/
def sweep (alive : K → Bool) (cache : Cache H K V) : Outcome H K V Nat :=
  let released := cache.buckets.flatMap (·.dead alive)
  { answer := released.length
    cache := { buckets := cache.buckets.filterMap (·.surviving? alive)
               stored := cache.stored - released.length
               sinceSweep := 0 }
    released := released }

/-- Counts an operation, and sweeps when it is time to. A sweep that released nothing is not
reported. -/
def countOperation (floor : UInt64) (alive : K → Bool) (cache : Cache H K V) :
    Outcome H K V Unit :=
  let counted := { cache with sinceSweep := cache.sinceSweep + 1 }
  -- the operation is counted before it stores anything
  if max counted.stored floor.toNat ≤ counted.sinceSweep then
    let swept := counted.sweep alive
    { answer := (), cache := swept.cache, released := swept.released,
      events := if swept.answer = 0 then [] else [.keysSwept swept.answer swept.cache.stored] }
  else
    { answer := (), cache := counted }

section Operations

variable [DecidableEq H]

def setBucket (hash : H) (slots : List (Slot K V)) (cache : Cache H K V) : Cache H K V :=
  { cache with buckets := Bucket.setSlots hash slots cache.buckets }

/-- Stores one more slot, as the last of its bucket. -/
def push (hash : H) (slot : Slot K V) (cache : Cache H K V) : Cache H K V :=
  { cache.setBucket hash (Bucket.slotsAt hash cache.buckets ++ [slot]) with
    stored := cache.stored + 1 }

/-- Releases the dead slots of one bucket. The answer is what remains in it. -/
def refresh (alive : K → Bool) (hash : H) (cache : Cache H K V) :
    Outcome H K V (List (Slot K V)) :=
  let slots := Bucket.slotsAt hash cache.buckets
  let live := slots.filter (·.isLive alive)
  let released := slots.filter (!·.isLive alive)
  { answer := live
    cache := { cache.setBucket hash live with stored := cache.stored - released.length }
    released := released }

/-- Counts an operation and then refreshes the bucket that it touches. -/
def touch (floor : UInt64) (alive : K → Bool) (hash : H) (cache : Cache H K V) :
    Outcome H K V (List (Slot K V)) :=
  let ticked := cache.countOperation floor alive
  let refreshed := ticked.cache.refresh alive hash
  { refreshed with released := ticked.released ++ refreshed.released, events := ticked.events }

/-- The position of the first slot that a probe names. -/
def locate? (strategy : KeyStrategy H K) (alive : K → Bool) (probe : K) (slots : List (Slot K V)) :
    Option (Fin slots.length) :=
  slots.findFinIdx? (·.answers strategy alive probe)

/-- The slots without the one at this position, whose place is taken by the last one. -/
def swapRemove (slots : List (Slot K V)) (position : Fin slots.length) : List (Slot K V) :=
  (slots.set position (slots.getLast (List.ne_nil_of_length_pos (Fin.pos position)))).dropLast

variable (config : CacheConfig H K)

def get (alive : K → Bool) (probe : K) (cache : Cache H K V) : Outcome H K V (Option V) :=
  (cache.touch config.sweepFloor alive (config.strategy.hash probe)).map fun slots =>
    (locate? config.strategy alive probe slots).map (slots[·].value)

def contains (alive : K → Bool) (probe : K) (cache : Cache H K V) : Outcome H K V Bool :=
  (cache.touch config.sweepFloor alive (config.strategy.hash probe)).map fun slots =>
    (locate? config.strategy alive probe slots).isSome

/-- Removes the slot that the probe names. The answer is its value. -/
def remove (alive : K → Bool) (probe : K) (cache : Cache H K V) : Outcome H K V (Option V) :=
  let hash := config.strategy.hash probe
  let touched := cache.touch config.sweepFloor alive hash
  match locate? config.strategy alive probe touched.answer with
  | none => touched.map fun _ => none
  | some position =>
    { touched with
      answer := some touched.answer[position].value
      cache := { touched.cache.setBucket hash (swapRemove touched.answer position) with
                 stored := touched.cache.stored - 1 } }

section Storing

variable [DecidableEq K]

/-- Stores a value under a living key. Where a slot answers to the key already, the key joins its
owners and the answer is the value that was replaced. -/
def put (alive : K → Bool) (key : K) (value : V) (cache : Cache H K V) :
    Outcome H K V (Option V) :=
  let hash := config.strategy.hash key
  let touched := cache.touch config.sweepFloor alive hash
  match locate? config.strategy alive key touched.answer with
  | none => { touched with answer := none, cache := touched.cache.push hash ⟨[key], value⟩ }
  | some position =>
    let slot := touched.answer[position]
    let replaced := { slot.addOwner alive key with value := value }
    { touched with
      answer := some slot.value
      cache := touched.cache.setBucket hash (touched.answer.set position replaced) }

/-- Stores a value under a key that may be dead, or that there never was. The cache of a refused
value stays as it is. -/
def putWeak (alive : K → Bool) (key : Option K) (value : V) (cache : Cache H K V) :
    Outcome H K V (Except KeyError (Option V)) :=
  match key.filter alive with
  | some key => (cache.put config alive key value).map .ok
  | none => { answer := .error .reclaimed, cache := cache, refused := [value] }

/-- Stores a value that was made because no slot answered to the key. If one answers by now, the key
joins its owners, its value is the answer, and the one that was made is refused. This continues an
operation that was counted when it began. -/
def settle (alive : K → Bool) (key : K) (made : V) (cache : Cache H K V) : Outcome H K V V :=
  let hash := config.strategy.hash key
  -- only the bucket is looked at again: the operation was counted by its first half
  let refreshed := cache.refresh alive hash
  match locate? config.strategy alive key refreshed.answer with
  | none => { refreshed with answer := made, cache := refreshed.cache.push hash ⟨[key], made⟩ }
  | some position =>
    let slot := refreshed.answer[position]
    { refreshed with
      answer := slot.value
      cache := refreshed.cache.setBucket hash
        (refreshed.answer.set position (slot.addOwner alive key))
      refused := [made] }

end Storing

end Operations

/-- Releases every dead slot. The answer says how many there were. -/
def purge (alive : K → Bool) (cache : Cache H K V) : Outcome H K V Nat := cache.sweep alive

/-- The number of live slots, after a sweep. -/
def size (alive : K → Bool) (cache : Cache H K V) : Outcome H K V Nat :=
  let swept := cache.sweep alive
  swept.map fun _ => swept.cache.stored

/-- Whether no slot is live, after a sweep. -/
def isEmpty (alive : K → Bool) (cache : Cache H K V) : Outcome H K V Bool :=
  (cache.size alive).map (· == 0)

def clear (cache : Cache H K V) : Outcome H K V Unit :=
  { answer := (), cache := {}, released := cache.slots }

/-- The live slots, each as its oldest living owner and its value. Nothing is counted or
released. -/
def entries (alive : K → Bool) (cache : Cache H K V) : List (K × V) :=
  cache.slots.filterMap fun slot => (slot.liveOwner? alive).map (·, slot.value)

def describe (config : CacheConfig H K) (cache : Cache H K V) : String :=
  s!"WeakKeyedCache \x7b stored: {cache.stored}, buckets: {cache.buckets.length}, " ++
    s!"config: CacheConfig \x7b sweep_floor: {config.sweepFloor} \x7d, .. \x7d"

/-! ## What is released was stored -/

theorem slotCount_sweep (alive : K → Bool) (cache : Cache H K V) :
    (cache.sweep alive).cache.slotCount + (cache.sweep alive).released.length =
      cache.slotCount :=
  Bucket.slotCount_surviving alive cache.buckets

theorem slotCount_countOperation (floor : UInt64) (alive : K → Bool) (cache : Cache H K V) :
    (cache.countOperation floor alive).cache.slotCount +
        (cache.countOperation floor alive).released.length = cache.slotCount := by
  simp only [countOperation]
  split
  · exact slotCount_sweep alive { cache with sinceSweep := cache.sinceSweep + 1 }
  · rfl

variable [DecidableEq H]

theorem slotCount_refresh (alive : K → Bool) (hash : H) (cache : Cache H K V) :
    (cache.refresh alive hash).cache.slotCount + (cache.refresh alive hash).released.length =
      cache.slotCount := by
  have split := Bucket.length_live_add_length_dead alive (Bucket.slotsAt hash cache.buckets)
  have moved := Bucket.slotCount_setSlots hash
    ((Bucket.slotsAt hash cache.buckets).filter (·.isLive alive)) cache.buckets
  simp only [refresh, setBucket, slotCount]
  omega

theorem slotCount_touch (floor : UInt64) (alive : K → Bool) (hash : H) (cache : Cache H K V) :
    (cache.touch floor alive hash).cache.slotCount +
        (cache.touch floor alive hash).released.length = cache.slotCount := by
  have ticked := slotCount_countOperation floor alive cache
  have refreshed := slotCount_refresh alive hash (cache.countOperation floor alive).cache
  simp only [touch, List.length_append]
  omega

end Cache

end PluginHost
