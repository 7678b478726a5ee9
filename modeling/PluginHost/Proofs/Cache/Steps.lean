import PluginHost.Proofs.Cache.Backlog
import PluginHost.Proofs.Cache.Representation
import PluginHost.Proofs.Numeric.Checked

/-!
# Caches in checked steps

The operations of a cache once more, in checked steps: counters are words of 64 bits, every
difference must not be negative, every position is looked up, and a slot needs room in a memory that
holds so many slots and no more. The steps return what the operations do, unless there is no room.
That the operation counter stays within a word is due to the sweeps: they start it anew once it has
reached the number of stored slots and the floor, both of which are words.
-/
namespace PluginHost.Cache

open Checked (Fault)

variable {H K V α : Type}

/-! ## Operations in checked steps -/

section Steps

def sweepSteps (alive : K → Bool) (cache : Cache H K V) : Except Fault (Outcome H K V Nat) := do
  let released := cache.buckets.flatMap (·.dead alive)
  let stored ← Checked.sub cache.stored released.length
  return { answer := released.length
           cache := { buckets := cache.buckets.filterMap (·.surviving? alive)
                      stored := stored
                      sinceSweep := 0 }
           released := released }

def countOperationSteps (floor : UInt64) (alive : K → Bool) (cache : Cache H K V) :
    Except Fault (Outcome H K V Unit) := do
  let count ← Checked.add cache.sinceSweep 1
  let counted := { cache with sinceSweep := count }
  if max counted.stored floor.toNat ≤ counted.sinceSweep then
    let swept ← counted.sweepSteps alive
    return { answer := (), cache := swept.cache, released := swept.released,
             events := if swept.answer = 0 then []
               else [.keysSwept swept.answer swept.cache.stored] }
  else
    return { answer := (), cache := counted }

variable [DecidableEq H]

/-- Stores one more slot, if there is room for it. -/
def pushSteps (memory : UInt64) (hash : H) (slot : Slot K V) (cache : Cache H K V) :
    Except Fault (Cache H K V) := do
  if memory.toNat ≤ cache.slots.length then throw .outOfMemory
  let stored ← Checked.add cache.stored 1
  return { cache.setBucket hash (Bucket.slotsAt hash cache.buckets ++ [slot]) with
           stored := stored }

def refreshSteps (alive : K → Bool) (hash : H) (cache : Cache H K V) :
    Except Fault (Outcome H K V (List (Slot K V))) := do
  let slots := Bucket.slotsAt hash cache.buckets
  let live := slots.filter (·.isLive alive)
  let released := slots.filter (!·.isLive alive)
  let stored ← Checked.sub cache.stored released.length
  return { answer := live
           cache := { cache.setBucket hash live with stored := stored }
           released := released }

def touchSteps (floor : UInt64) (alive : K → Bool) (hash : H) (cache : Cache H K V) :
    Except Fault (Outcome H K V (List (Slot K V))) := do
  let ticked ← cache.countOperationSteps floor alive
  let refreshed ← ticked.cache.refreshSteps alive hash
  return { refreshed with
           released := ticked.released ++ refreshed.released, events := ticked.events }

/-- The position of the first slot that a probe names, as a plain number. -/
def position? (strategy : KeyStrategy H K) (alive : K → Bool) (probe : K)
    (slots : List (Slot K V)) : Option Nat :=
  slots.findIdx? (·.answers strategy alive probe)

/-- The slots without the one at this position, whose place is taken by the last one. -/
def swapRemoveSteps (slots : List (Slot K V)) (position : Nat) :
    Except Fault (Slot K V × List (Slot K V)) := do
  let slot ← Checked.item slots position
  let last ← Checked.item slots (← Checked.sub slots.length 1)
  return (slot, (slots.set position last).dropLast)

variable (config : CacheConfig H K)

def getSteps (alive : K → Bool) (probe : K) (cache : Cache H K V) :
    Except Fault (Outcome H K V (Option V)) := do
  let touched ← cache.touchSteps config.sweepFloor alive (config.strategy.hash probe)
  match position? config.strategy alive probe touched.answer with
  | none => return touched.map fun _ => none
  | some position =>
    let slot ← Checked.item touched.answer position
    return touched.map fun _ => some slot.value

def containsSteps (alive : K → Bool) (probe : K) (cache : Cache H K V) :
    Except Fault (Outcome H K V Bool) := do
  let touched ← cache.touchSteps config.sweepFloor alive (config.strategy.hash probe)
  return touched.map fun slots => (position? config.strategy alive probe slots).isSome

def removeSteps (alive : K → Bool) (probe : K) (cache : Cache H K V) :
    Except Fault (Outcome H K V (Option V)) := do
  let hash := config.strategy.hash probe
  let touched ← cache.touchSteps config.sweepFloor alive hash
  match position? config.strategy alive probe touched.answer with
  | none => return touched.map fun _ => none
  | some position =>
    let (slot, slots) ← swapRemoveSteps touched.answer position
    let stored ← Checked.sub touched.cache.stored 1
    return { touched with
             answer := some slot.value
             cache := { touched.cache.setBucket hash slots with stored := stored } }

variable [DecidableEq K] (memory : UInt64)

def putSteps (alive : K → Bool) (key : K) (value : V) (cache : Cache H K V) :
    Except Fault (Outcome H K V (Option V)) := do
  let hash := config.strategy.hash key
  let touched ← cache.touchSteps config.sweepFloor alive hash
  match position? config.strategy alive key touched.answer with
  | none =>
    let pushed ← touched.cache.pushSteps memory hash ⟨[key], value⟩
    return { touched with answer := none, cache := pushed }
  | some position =>
    let slot ← Checked.item touched.answer position
    let replaced := { slot.addOwner alive key with value := value }
    return { touched with
             answer := some slot.value
             cache := touched.cache.setBucket hash (touched.answer.set position replaced) }

def putWeakSteps (alive : K → Bool) (key : Option K) (value : V) (cache : Cache H K V) :
    Except Fault (Outcome H K V (Except KeyError (Option V))) := do
  match key.filter alive with
  | some key => return (← cache.putSteps config memory alive key value).map .ok
  | none => return { answer := .error .reclaimed, cache := cache, refused := [value] }

def settleSteps (alive : K → Bool) (key : K) (made : V) (cache : Cache H K V) :
    Except Fault (Outcome H K V V) := do
  let hash := config.strategy.hash key
  let refreshed ← cache.refreshSteps alive hash
  match position? config.strategy alive key refreshed.answer with
  | none =>
    let pushed ← refreshed.cache.pushSteps memory hash ⟨[key], made⟩
    return { refreshed with answer := made, cache := pushed }
  | some position =>
    let slot ← Checked.item refreshed.answer position
    return { refreshed with
             answer := slot.value
             cache := refreshed.cache.setBucket hash
               (refreshed.answer.set position (slot.addOwner alive key))
             refused := [made] }

/-- Makes a call in checked steps. -/
def Call.performSteps (alive : K → Bool) (cache : Cache H K V) :
    Call K V → Except Fault (Outcome H K V (Reply K V))
  | .put key value => do
    if alive key then return (← cache.putSteps config memory alive key value).map .previous
    else return { answer := .impossible, cache := cache }
  | .putWeak key? value =>
    return (← cache.putWeakSteps config memory alive key? value).map .ofExcept
  | .get probe => return (← cache.getSteps config alive probe).map .found
  | .contains probe => return (← cache.containsSteps config alive probe).map .flag
  | .remove probe => return (← cache.removeSteps config alive probe).map .previous
  | .size => do
    let swept ← cache.sweepSteps alive
    return (swept.map fun _ => swept.cache.stored).map .count
  | .isEmpty => do
    let swept ← cache.sweepSteps alive
    return (swept.map fun _ => swept.cache.stored == 0).map .flag
  | .purge => return (← cache.sweepSteps alive).map .purged
  | .clear => return cache.clear.map fun _ => .acknowledged
  | .entries => return { answer := .entries (cache.entries alive), cache := cache }

namespace World

/-- What the cache makes of a move, in checked steps. -/
def respondSteps (world : World H K V) : Move K V → Except Fault (Outcome H K V (Reply K V))
  | .key _ => return { answer := .acknowledged, cache := world.cache }
  | .call call => call.performSteps config memory world.alive world.cache
  | .settle key made => do
    if world.alive key then
      return (← world.cache.settleSteps config memory world.alive key made).map
        fun value => .found (some value)
    else return { answer := .impossible, cache := world.cache }

/-- A turn in checked steps. -/
def turnSteps (floor : UInt64) (world : World H K V) (turn : Turn H K V) :
    Except Fault (World H K V) := do
  let outcome ← world.respondSteps ⟨turn.strategy, floor⟩ memory turn.move
  return { cache := outcome.cache, fates := world.fatesAfter turn.move }

/-- Turns in checked steps, from the start. -/
def afterTurnsSteps (floor : UInt64) (turns : List (Turn H K V)) : Except Fault (World H K V) :=
  turns.foldlM (turnSteps memory floor) {}

end World

end Steps

/-! ## Steps that no cache can fail in -/

section Safe

variable [DecidableEq H] {alive : K → Bool} {cache : Cache H K V}

omit [DecidableEq H] in
theorem sweepSteps_eq (h : cache.WellFormed) (alive : K → Bool) :
    cache.sweepSteps alive = .ok (cache.sweep alive) := by
  have hle : (cache.buckets.flatMap (·.dead alive)).length ≤ cache.stored := by
    have hcount := slotCount_sweep alive cache
    rw [← h.stored] at hcount
    exact Nat.le.intro ((Nat.add_comm ..).trans hcount)
  simp only [sweepSteps, Checked.sub_eq_ok hle, Checked.ok_bind, Checked.pure_eq_ok]
  rfl

theorem countOperationSteps_eq (h : cache.WellFormed) (hcount : cache.sinceSweep + 1 < UInt64.size)
    (floor : UInt64) (alive : K → Bool) :
    cache.countOperationSteps floor alive = .ok (cache.countOperation floor alive) := by
  have hcounted : WellFormed { cache with sinceSweep := cache.sinceSweep + 1 } :=
    (Tidied.counted h alive _).wellFormed
  simp only [countOperationSteps, Checked.add_eq_ok hcount, Checked.ok_bind, countOperation]
  split
  · simp only [sweepSteps_eq hcounted, Checked.ok_bind, Checked.pure_eq_ok]
  · rfl

theorem Tidied.stored_le {before after : Cache H K V} {released : List (Slot K V)}
    (h : Tidied alive before after released) (hbefore : before.WellFormed) :
    after.stored ≤ before.stored := by
  have hlength := h.slots.length_eq
  rw [List.length_append] at hlength
  rw [h.wellFormed.stored_eq, hbefore.stored_eq]
  omega

theorem length_shelf_le (h : cache.WellFormed) (hash : H) :
    (cache.shelf hash).length ≤ cache.stored := by
  have hlength := (slots_perm_shelf hash cache).length_eq
  rw [List.length_append] at hlength
  rw [h.stored_eq]
  omega

theorem refreshSteps_eq (h : cache.WellFormed) (alive : K → Bool) (hash : H) :
    cache.refreshSteps alive hash = .ok (cache.refresh alive hash) := by
  have hle : ((cache.shelf hash).filter (!·.isLive alive)).length ≤ cache.stored :=
    Nat.le_trans (List.length_filter_le ..) (length_shelf_le h hash)
  rw [shelf] at hle
  simp only [refreshSteps, Checked.sub_eq_ok hle, Checked.ok_bind, Checked.pure_eq_ok]
  rfl

/-- What a cache needs so that an operation is safe: it fits into the memory, and one more operation
can be counted. -/
structure Fits (memory : UInt64) (cache : Cache H K V) : Prop where
  wellFormed : cache.WellFormed
  stored : cache.stored ≤ memory.toNat
  sinceSweep : cache.sinceSweep + 1 < UInt64.size

variable {memory : UInt64}

/-- Where nothing was added the memory suffices. -/
theorem Fits.stored_le_of_tidied (h : cache.Fits memory) {after : Cache H K V}
    {released : List (Slot K V)} (htidied : Tidied alive cache after released) :
    after.stored ≤ memory.toNat :=
  Nat.le_trans (htidied.stored_le h.wellFormed) h.stored

theorem touchSteps_eq (h : cache.Fits memory) (floor : UInt64) (alive : K → Bool) (hash : H) :
    cache.touchSteps floor alive hash = .ok (cache.touch floor alive hash) := by
  have hticked := (tidied_countOperation h.wellFormed floor alive).wellFormed
  simp only [touchSteps, countOperationSteps_eq h.wellFormed h.sinceSweep,
    refreshSteps_eq hticked, Checked.ok_bind, Checked.pure_eq_ok]
  rfl

omit [DecidableEq H] in
theorem position?_eq (strategy : KeyStrategy H K) (alive : K → Bool) (probe : K)
    (slots : List (Slot K V)) :
    position? strategy alive probe slots =
      (locate? strategy alive probe slots).map (·.val) :=
  List.findIdx?_eq_map_findFinIdx?_val

omit [DecidableEq H] in
theorem item_position (slots : List (Slot K V)) (position : Fin slots.length) :
    Checked.item slots position = .ok (slots.get position) :=
  Checked.item_eq_ok position.isLt

omit [DecidableEq H] in
theorem swapRemoveSteps_eq (slots : List (Slot K V)) (position : Fin slots.length) :
    swapRemoveSteps slots position = .ok (slots.get position, swapRemove slots position) := by
  have hpos : 0 < slots.length := Fin.pos position
  have hlast : slots.length - 1 < slots.length := Nat.sub_lt hpos Nat.one_pos
  simp only [swapRemoveSteps, item_position, Checked.sub_eq_ok (Nat.succ_le_of_lt hpos),
    Checked.item_eq_ok hlast, Checked.ok_bind, Checked.pure_eq_ok, swapRemove,
    List.getLast_eq_getElem]

variable (config : CacheConfig H K)

theorem getSteps_eq (h : cache.Fits memory) (probe : K) :
    cache.getSteps config alive probe = .ok (cache.get config alive probe) := by
  simp only [getSteps, touchSteps_eq h, Checked.ok_bind, position?_eq, get]
  cases hfound : locate? config.strategy alive probe
      (cache.touch config.sweepFloor alive (config.strategy.hash probe)).answer with
  | none => simp [Outcome.map, hfound]
  | some position =>
    simp only [Option.map_some, item_position, Checked.ok_bind, Checked.pure_eq_ok]
    simp [Outcome.map, hfound]

theorem containsSteps_eq (h : cache.Fits memory) (probe : K) :
    cache.containsSteps config alive probe = .ok (cache.contains config alive probe) := by
  simp only [containsSteps, touchSteps_eq h, Checked.ok_bind, Checked.pure_eq_ok, position?_eq,
    Option.isSome_map, contains]

/-- Where something is found there is something to take away. -/
theorem removeSteps_eq (h : cache.Fits memory) (probe : K) :
    cache.removeSteps config alive probe = .ok (cache.remove config alive probe) := by
  obtain ⟨hready, hanswer⟩ :=
    ready_touch h.wellFormed config.sweepFloor alive (config.strategy.hash probe)
  simp only [removeSteps, touchSteps_eq h, Checked.ok_bind, position?_eq, remove]
  cases locate? config.strategy alive probe
      (cache.touch config.sweepFloor alive (config.strategy.hash probe)).answer with
  | none => rfl
  | some position =>
    have hstored : 1 ≤ (cache.touch config.sweepFloor alive
        (config.strategy.hash probe)).cache.stored := by
      have hle := length_shelf_le hready.wellFormed (config.strategy.hash probe)
      rw [← hanswer] at hle
      exact Nat.le_trans (Fin.pos position) hle
    simp only [Option.map_some, swapRemoveSteps_eq, Checked.sub_eq_ok hstored, Checked.ok_bind]
    rfl

end Safe

/-! ## Steps that need room -/

/-- The outcome, if its cache fits into the memory. -/
def Outcome.within (memory : UInt64) (outcome : Outcome H K V α) :
    Except Fault (Outcome H K V α) :=
  if outcome.cache.stored ≤ memory.toNat then .ok outcome else .error .outOfMemory

section Room

variable {memory : UInt64}

theorem Outcome.within_eq_ok {outcome : Outcome H K V α}
    (h : outcome.cache.stored ≤ memory.toNat) : outcome.within memory = .ok outcome := if_pos h

@[simp] theorem Outcome.within_bind_map {β : Type} (outcome : Outcome H K V α) (change : α → β) :
    (outcome.within memory >>= fun done => pure (done.map change)) =
      (outcome.map change).within memory := by
  by_cases hroom : outcome.cache.stored ≤ memory.toNat
  · have hmapped : (outcome.map change).cache.stored ≤ memory.toNat := hroom
    rw [within, if_pos hroom, Outcome.within_eq_ok hmapped]
    rfl
  · rw [within, if_neg hroom, within, map, if_neg hroom]
    rfl

variable [DecidableEq H] {alive : K → Bool} {cache : Cache H K V}

theorem pushSteps_eq (h : cache.WellFormed) (hash : H) (slot : Slot K V) :
    cache.pushSteps memory hash slot =
      if (cache.push hash slot).stored ≤ memory.toNat then .ok (cache.push hash slot)
      else .error .outOfMemory := by
  have hpush : (cache.push hash slot).stored = cache.stored + 1 := rfl
  rw [pushSteps, ← h.stored_eq, hpush]
  by_cases hroom : cache.stored + 1 ≤ memory.toNat
  · -- the memory is smaller than the range of a word
    have hword : cache.stored + 1 < UInt64.size := Nat.lt_of_le_of_lt hroom memory.toNat_lt_size
    rw [if_neg (Nat.not_le.mpr hroom), if_pos hroom]
    simp only [Checked.add_eq_ok hword, Checked.ok_bind, Checked.pure_eq_ok]
    rfl
  · rw [if_pos (Nat.not_lt.mp hroom), if_neg hroom]
    rfl

variable [DecidableEq K] (config : CacheConfig H K)

theorem putSteps_eq (h : cache.Fits memory) (key : K) (value : V) :
    cache.putSteps config memory alive key value =
      (cache.put config alive key value).within memory := by
  obtain ⟨hready, -⟩ :=
    ready_touch h.wellFormed config.sweepFloor alive (config.strategy.hash key)
  simp only [putSteps, touchSteps_eq h, Checked.ok_bind, position?_eq, put]
  cases locate? config.strategy alive key
      (cache.touch config.sweepFloor alive (config.strategy.hash key)).answer with
  | none =>
    simp only [Option.map_none, pushSteps_eq hready.wellFormed, Outcome.within]
    split <;> rfl
  | some position =>
    have hroom := h.stored_le_of_tidied hready.toTidied
    simp only [Option.map_some, item_position, Checked.ok_bind, Checked.pure_eq_ok]
    refine (Outcome.within_eq_ok ?_).symm
    exact hroom

theorem putWeakSteps_eq (h : cache.Fits memory) (key? : Option K) (value : V) :
    cache.putWeakSteps config memory alive key? value =
      (cache.putWeak config alive key? value).within memory := by
  simp only [putWeakSteps, putWeak]
  cases key?.filter alive with
  | none => exact (Outcome.within_eq_ok h.stored).symm
  | some key => simp only [putSteps_eq config h, Outcome.within_bind_map]

theorem settleSteps_eq (h : cache.Fits memory) (key : K) (made : V) :
    cache.settleSteps config memory alive key made =
      (cache.settle config alive key made).within memory := by
  obtain ⟨hready, -⟩ := ready_refresh h.wellFormed alive (config.strategy.hash key)
  simp only [settleSteps, refreshSteps_eq h.wellFormed, Checked.ok_bind, position?_eq, settle]
  cases locate? config.strategy alive key
      (cache.refresh alive (config.strategy.hash key)).answer with
  | none =>
    simp only [Option.map_none, pushSteps_eq hready.wellFormed, Outcome.within]
    split <;> rfl
  | some position =>
    have hroom := h.stored_le_of_tidied hready.toTidied
    simp only [Option.map_some, item_position, Checked.ok_bind, Checked.pure_eq_ok]
    refine (Outcome.within_eq_ok ?_).symm
    exact hroom

omit [DecidableEq K] in
/-- An operation whose cache holds no more than before needs no room. -/
theorem within_of_tidied (h : cache.Fits memory) {outcome : Outcome H K V α}
    {released : List (Slot K V)} (htidied : Tidied alive cache outcome.cache released) :
    outcome.within memory = .ok outcome :=
  Outcome.within_eq_ok (h.stored_le_of_tidied htidied)

omit [DecidableEq K] in
theorem remove_within (h : cache.Fits memory) (probe : K) :
    (cache.remove config alive probe).within memory = .ok (cache.remove config alive probe) := by
  refine Outcome.within_eq_ok ?_
  obtain ⟨middle, hready, ⟨-, -, hcache⟩ | ⟨_, _, _, _, -, -, -, hcache⟩⟩ :=
    remove_cases config alive h.wellFormed probe
  · rw [hcache]
    exact h.stored_le_of_tidied hready.toTidied
  · rw [hcache]
    exact Nat.le_trans (Nat.sub_le ..) (h.stored_le_of_tidied hready.toTidied)

theorem performSteps_eq (h : cache.Fits memory) (call : Call K V) :
    call.performSteps config memory alive cache =
      (call.perform config alive cache).within memory := by
  have hsweep : (cache.sweep alive).within memory = .ok (cache.sweep alive) :=
    within_of_tidied h (tidied_sweep h.wellFormed alive)
  cases call with
  | put key value =>
    simp only [Call.performSteps, Call.perform]
    split
    · simp only [putSteps_eq config h, Outcome.within_bind_map]
    · exact (Outcome.within_eq_ok h.stored).symm
  | putWeak key? value =>
    simp only [Call.performSteps, Call.perform, putWeakSteps_eq config h, Outcome.within_bind_map]
  | get probe =>
    have hroom := within_of_tidied h (get_ready config alive h.wellFormed probe).1.toTidied
    simp only [Call.performSteps, Call.perform, getSteps_eq config h, ← hroom,
      Outcome.within_bind_map]
  | contains probe =>
    have hroom := within_of_tidied h (contains_ready config alive h.wellFormed probe).1.toTidied
    simp only [Call.performSteps, Call.perform, containsSteps_eq config h, ← hroom,
      Outcome.within_bind_map]
  | remove probe =>
    simp only [Call.performSteps, Call.perform, removeSteps_eq config h,
      ← remove_within config h, Outcome.within_bind_map]
  | size =>
    simp only [Call.performSteps, Call.perform, sweepSteps_eq h.wellFormed, Checked.ok_bind]
    exact (Outcome.within_eq_ok (Nat.le_trans (Nat.sub_le ..) h.stored)).symm
  | isEmpty =>
    simp only [Call.performSteps, Call.perform, sweepSteps_eq h.wellFormed, Checked.ok_bind]
    exact (Outcome.within_eq_ok (Nat.le_trans (Nat.sub_le ..) h.stored)).symm
  | purge =>
    simp only [Call.performSteps, Call.perform, sweepSteps_eq h.wellFormed, ← hsweep,
      Outcome.within_bind_map]
    rfl
  | clear => exact (Outcome.within_eq_ok (Nat.zero_le _)).symm
  | entries => exact (Outcome.within_eq_ok h.stored).symm

end Room

/-! ## Runs in checked steps -/

namespace World

variable [DecidableEq H] [DecidableEq K] {memory : UInt64}

theorem respondSteps_eq (config : CacheConfig H K) {world : World H K V}
    (h : world.cache.Fits memory) (move : Move K V) :
    world.respondSteps config memory move = (world.respond config move).within memory := by
  cases move with
  | key event => exact (Outcome.within_eq_ok h.stored).symm
  | call call => exact performSteps_eq config h call
  | settle key made =>
    simp only [respondSteps, respond]
    split
    · simp only [settleSteps_eq config h, Outcome.within_bind_map]
    · exact (Outcome.within_eq_ok h.stored).symm

/-- In checked steps a turn does what it does, unless its slots do not fit into the memory. -/
theorem turnSteps_eq (floor : UInt64) {world : World H K V} (h : world.cache.Fits memory)
    (turn : Turn H K V) :
    world.turnSteps memory floor turn =
      if (world.turn floor turn).cache.stored ≤ memory.toNat then .ok (world.turn floor turn)
      else .error .outOfMemory := by
  have hcache : (world.turn floor turn).cache =
      (world.respond ⟨turn.strategy, floor⟩ turn.move).cache := rfl
  rw [turnSteps, respondSteps_eq _ h, hcache, Outcome.within]
  split <;> rfl

variable (memory) (floor : UInt64) (turns : List (Turn H K V))

/-- What was stored did fit into the memory, at any time. -/
def HadRoom : Prop :=
  ∀ earlier, earlier <+: turns → (afterTurns floor earlier).cache.stored ≤ memory.toNat

theorem hadRoom_concat (turn : Turn H K V) :
    HadRoom memory floor (turns ++ [turn]) ↔
      HadRoom memory floor turns ∧
        ((afterTurns floor turns).turn floor turn).cache.stored ≤ memory.toNat := by
  rw [← afterTurns_concat]
  constructor
  · exact fun h => ⟨fun earlier hearlier => h earlier (hearlier.trans (List.prefix_append ..)),
      h _ (List.prefix_refl _)⟩
  · rintro ⟨hturns, hturn⟩ earlier hearlier
    rcases List.prefix_concat_iff.mp hearlier with rfl | hearlier
    · exact hturn
    · exact hturns earlier hearlier

variable {memory} {turns}

theorem HadRoom.stored (h : HadRoom memory floor turns) :
    (afterTurns floor turns).cache.stored ≤ memory.toNat := h turns (List.prefix_refl _)

/-- A count that is not started anew is below the number of stored slots or the floor, and both are
words. -/
theorem HadRoom.sinceSweep (h : HadRoom memory floor turns) :
    (afterTurns floor turns).cache.sinceSweep + 1 < UInt64.size := by
  induction turns using List.reverseRecOn with
  | nil =>
    show 0 + 1 < UInt64.size
    decide
  | append_singleton turns turn ih =>
    obtain ⟨hturns, -⟩ := (hadRoom_concat memory floor turns turn).mp h
    have hearlier := ih hturns
    have hstored := Nat.lt_of_le_of_lt hturns.stored memory.toNat_lt_size
    have hfloor := floor.toNat_lt_size
    rw [afterTurns_concat]
    have hpaced := paced_respond ⟨turn.strategy, floor⟩ (wellFormed_afterTurns floor turns)
      turn.move
    have hcache : ((afterTurns floor turns).turn floor turn).cache.sinceSweep =
        ((afterTurns floor turns).respond ⟨turn.strategy, floor⟩ turn.move).cache.sinceSweep := rfl
    rw [hcache]
    cases hpaced with
    | swept _ _ _ hcount =>
      rw [hcount]
      decide
    | counted _ hcount hdue =>
      have hlt : (afterTurns floor turns).cache.sinceSweep + 1 <
          max (afterTurns floor turns).cache.stored floor.toNat := hdue
      rw [hcount]
      omega
    | uncounted _ hcount =>
      rw [hcount]
      exact hearlier

theorem HadRoom.fits (h : HadRoom memory floor turns) :
    (afterTurns floor turns).cache.Fits memory :=
  ⟨wellFormed_afterTurns floor turns, h.stored, h.sinceSweep⟩

variable (memory turns)

theorem afterTurnsSteps_concat (turn : Turn H K V) :
    afterTurnsSteps memory floor (turns ++ [turn]) =
      (afterTurnsSteps memory floor turns >>= fun world => world.turnSteps memory floor turn) := by
  simp only [afterTurnsSteps, List.foldlM_append, List.foldlM_cons, List.foldlM_nil, bind_pure]

theorem afterTurnsSteps_eq :
    (HadRoom memory floor turns →
        afterTurnsSteps memory floor turns = .ok (afterTurns floor turns)) ∧
      (¬HadRoom memory floor turns →
        afterTurnsSteps memory floor turns = .error .outOfMemory) := by
  induction turns using List.reverseRecOn with
  | nil =>
    have hroom : HadRoom memory floor ([] : List (Turn H K V)) := fun earlier hearlier => by
      rw [List.prefix_nil.mp hearlier]
      exact Nat.zero_le _
    exact ⟨fun _ => rfl, fun h => absurd hroom h⟩
  | append_singleton turns turn ih =>
    rw [afterTurnsSteps_concat, hadRoom_concat, afterTurns_concat]
    by_cases hturns : HadRoom memory floor turns
    · rw [ih.1 hturns, Checked.ok_bind, turnSteps_eq floor hturns.fits]
      exact ⟨fun h => if_pos h.2, fun h => if_neg fun hturn => h ⟨hturns, hturn⟩⟩
    · rw [ih.2 hturns, Checked.error_bind]
      exact ⟨fun h => absurd h.1 hturns, fun _ => rfl⟩

end World

/-- After any turns the counters and the buckets of the cache tell the truth. Made in checked steps,
the turns come to the same, unless more was stored at some time than there is room for: then the
memory is what they fail for, and nothing else. -/
theorem counters_safe (floor memory : UInt64) [DecidableEq H] [DecidableEq K]
    (turns : List (Turn H K V)) :
    Represents turns (World.afterTurns floor turns).cache ∧
      (World.HadRoom memory floor turns →
        World.afterTurnsSteps memory floor turns = .ok (World.afterTurns floor turns)) ∧
      (¬World.HadRoom memory floor turns →
        World.afterTurnsSteps memory floor turns = .error .outOfMemory) :=
  ⟨represents_afterTurns floor turns, World.afterTurnsSteps_eq memory floor turns⟩

end PluginHost.Cache
