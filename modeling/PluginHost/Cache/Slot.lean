import PluginHost.Cache.Strategy

/-!
# Slots and buckets

A slot holds a value and the keys that it was stored under. The keys keep the value, the value does
not keep the keys: a key may die at any time, and a slot all of whose keys are dead is dead itself.
Which keys are alive is not known to a slot, so every question about it is asked with the predicate
`alive`.
-/
namespace PluginHost

/-- A stored value and the keys that own it. -/
structure Slot (K V : Type) where
  /-- Equal keys that the value was stored under, oldest first. -/
  owners : List K
  value : V
deriving DecidableEq, Repr

namespace Slot

variable {K V : Type}

/-- A slot is live while at least one of its owners is. -/
def isLive (alive : K → Bool) (slot : Slot K V) : Bool := slot.owners.any alive

def liveOwner? (alive : K → Bool) (slot : Slot K V) : Option K := slot.owners.find? alive

/-- Makes a key an owner of the slot, and forgets the owners that died. -/
def addOwner [DecidableEq K] (alive : K → Bool) (key : K) (slot : Slot K V) : Slot K V :=
  let held := slot.owners.filter alive
  { slot with owners := if key ∈ held then held else held ++ [key] }

/-- Whether a probe names this slot. Only a live owner is compared, and only the oldest. -/
def answers {H : Type} (strategy : KeyStrategy H K) (alive : K → Bool) (probe : K)
    (slot : Slot K V) : Bool :=
  (slot.liveOwner? alive).any (strategy.equal · probe)

end Slot

/-- The slots whose keys had the same hash when they were inserted. -/
structure Bucket (H K V : Type) where
  hash : H
  slots : List (Slot K V)
deriving DecidableEq, Repr

namespace Bucket

variable {H K V : Type}

/-- The slots of the bucket of this hash, and none where there is no such bucket. -/
def slotsAt [DecidableEq H] (hash : H) : List (Bucket H K V) → List (Slot K V)
  | [] => []
  | bucket :: others => if bucket.hash = hash then bucket.slots else slotsAt hash others

/-- Gives the bucket of this hash other slots. A bucket is made where it is missing, and none is
left without slots. -/
def setSlots [DecidableEq H] (hash : H) (slots : List (Slot K V)) :
    List (Bucket H K V) → List (Bucket H K V)
  | [] => if slots.isEmpty then [] else [⟨hash, slots⟩]
  | bucket :: others =>
    if bucket.hash = hash then
      if slots.isEmpty then others else ⟨hash, slots⟩ :: others
    else
      bucket :: setSlots hash slots others

def slotCount : List (Bucket H K V) → Nat
  | [] => 0
  | bucket :: others => bucket.slots.length + slotCount others

/-- The live slots of a bucket, unless there are none. -/
def surviving? (alive : K → Bool) (bucket : Bucket H K V) : Option (Bucket H K V) :=
  let live := bucket.slots.filter (·.isLive alive)
  if live.isEmpty then none else some ⟨bucket.hash, live⟩

def dead (alive : K → Bool) (bucket : Bucket H K V) : List (Slot K V) :=
  bucket.slots.filter (!·.isLive alive)

/-- Giving a bucket other slots changes the number of slots by the difference. -/
theorem slotCount_setSlots [DecidableEq H] (hash : H) (slots : List (Slot K V))
    (buckets : List (Bucket H K V)) :
    slotCount (setSlots hash slots buckets) + (slotsAt hash buckets).length =
      slotCount buckets + slots.length := by
  induction buckets with
  | nil => cases slots <;> simp [setSlots, slotsAt, slotCount]
  | cons bucket others ih =>
    by_cases same : bucket.hash = hash
    · cases slots <;> simp [setSlots, slotsAt, slotCount, same] <;> omega
    · simp only [setSlots, slotsAt, slotCount, same, if_false]
      omega

theorem length_live_add_length_dead (alive : K → Bool) (slots : List (Slot K V)) :
    (slots.filter (·.isLive alive)).length + (slots.filter (!·.isLive alive)).length =
      slots.length := by
  induction slots with
  | nil => rfl
  | cons slot others ih => cases h : slot.isLive alive <;> simp [h] <;> omega

/-- A sweep keeps the live slots and releases the others. -/
theorem slotCount_surviving (alive : K → Bool) (buckets : List (Bucket H K V)) :
    slotCount (buckets.filterMap (surviving? alive)) + (buckets.flatMap (dead alive)).length =
      slotCount buckets := by
  induction buckets with
  | nil => rfl
  | cons bucket others ih =>
    have split := length_live_add_length_dead alive bucket.slots
    by_cases none_live : (bucket.slots.filter (·.isLive alive)).isEmpty
    · have : (bucket.slots.filter (·.isLive alive)).length = 0 := by
        simpa [List.isEmpty_iff_length_eq_zero] using none_live
      simp only [List.filterMap_cons, surviving?, none_live, if_true, List.flatMap_cons, dead,
        List.length_append, slotCount]
      omega
    · simp only [List.filterMap_cons, surviving?, none_live, List.flatMap_cons, dead,
        List.length_append, slotCount]
      simp only [Bool.false_eq_true, if_false, slotCount]
      omega

end Bucket

end PluginHost
