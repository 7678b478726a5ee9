import PluginHost.Proofs.Cache.Shelves

/-!
# Calls of a cache

The operations as data, so that there are lists of them. Whatever the call, only a few things can
happen to the slots: dead ones are dropped, all are dropped, one is added, one gets another owner,
or one is taken out. `Change` has a case for each, and every call is one of them.
-/
namespace PluginHost.Cache

variable {H K V : Type}

/-- A call of an operation. -/
inductive Call (K V : Type) where
  | put (key : K) (value : V)
  | putWeak (key? : Option K) (value : V)
  | get (probe : K)
  | contains (probe : K)
  | remove (probe : K)
  | size
  | isEmpty
  | purge
  | clear
  | entries
deriving DecidableEq, Repr

/-- The answer to a call. -/
inductive Reply (K V : Type) where
  /-- There is no such call: whoever passes a key holds it, so the key is alive. -/
  | impossible
  /-- A copy of a stored value. -/
  | found (value? : Option V)
  /-- The value of a memoized call, and whether it was made for this call. -/
  | memoized (value : V) (fresh : Bool)
  | flag (answer : Bool)
  /-- The value that was replaced or removed. It leaves the cache. -/
  | previous (value? : Option V)
  | refused (error : KeyError)
  | count (number : Nat)
  | purged (number : Nat)
  | entries (listed : List (K × V))
  | acknowledged
deriving DecidableEq, Repr

/-- The answer of a call with a weak key. -/
def Reply.ofExcept : Except KeyError (Option V) → Reply K V
  | .ok value? => .previous value?
  | .error error => .refused error

section Perform

variable [DecidableEq H] [DecidableEq K] (config : CacheConfig H K) (alive : K → Bool)
  (cache : Cache H K V)

/-- Makes a call. -/
def Call.perform : Call K V → Outcome H K V (Reply K V)
  | .put key value =>
    if alive key then (cache.put config alive key value).map .previous
    else { answer := .impossible, cache := cache }
  | .putWeak key? value => (cache.putWeak config alive key? value).map .ofExcept
  | .get probe => (cache.get config alive probe).map .found
  | .contains probe => (cache.contains config alive probe).map .flag
  | .remove probe => (cache.remove config alive probe).map .previous
  | .size => (cache.size alive).map .count
  | .isEmpty => (cache.isEmpty alive).map .flag
  | .purge => (cache.purge alive).map .purged
  | .clear => cache.clear.map fun _ => .acknowledged
  | .entries => { answer := .entries (cache.entries alive), cache := cache }

end Perform

/-! ## The slots after a write -/

section Slots

variable [DecidableEq H] {hash : H} {cache : Cache H K V} {front behind : List (Slot K V)}
  {slot : Slot K V}

theorem slots_push (hash : H) (slot : Slot K V) (cache : Cache H K V) :
    (cache.push hash slot).slots.Perm (slot :: cache.slots) := by
  calc (cache.push hash slot).slots
    _ |>.Perm ((cache.shelf hash ++ [slot]) ++
          (Bucket.without hash cache.buckets).flatMap (·.slots)) :=
      slots_setBucket_perm hash (cache.shelf hash ++ [slot]) cache
    _ |>.Perm (slot :: (cache.shelf hash ++
          (Bucket.without hash cache.buckets).flatMap (·.slots))) := by
      rw [List.append_assoc]
      exact List.perm_middle
    _ |>.Perm (slot :: cache.slots) := (slots_perm_shelf hash cache).symm.cons _

theorem mem_slots_push {other : Slot K V} :
    other ∈ (cache.push hash slot).slots ↔ other = slot ∨ other ∈ cache.slots :=
  (slots_push ..).mem_iff.trans List.mem_cons

theorem slots_replace (h : cache.shelf hash = front ++ slot :: behind) :
    ∃ rest, cache.slots.Perm (slot :: rest) ∧
      ∀ other, (cache.setBucket hash (front ++ other :: behind)).slots.Perm (other :: rest) := by
  -- what is left does not mention the slot, so the other one fits in as well
  refine ⟨front ++ (behind ++ (Bucket.without hash cache.buckets).flatMap (·.slots)), ?_, ?_⟩
  · have hall := slots_perm_shelf hash cache
    rw [h, List.append_assoc] at hall
    exact hall.trans List.perm_middle
  · intro other
    have hall := slots_setBucket_perm hash (front ++ other :: behind) cache
    rw [List.append_assoc] at hall
    exact hall.trans List.perm_middle

theorem slots_withdraw {left : List (Slot K V)} (h : cache.shelf hash = front ++ slot :: behind)
    (hleft : left.Perm (front ++ behind)) :
    cache.slots.Perm (slot :: (cache.setBucket hash left).slots) := by
  have hall := slots_perm_shelf hash cache
  rw [h, List.append_assoc] at hall
  calc cache.slots
    _ |>.Perm (front ++ (slot :: behind ++
          (Bucket.without hash cache.buckets).flatMap (·.slots))) := hall
    _ |>.Perm (slot :: (front ++ (behind ++
          (Bucket.without hash cache.buckets).flatMap (·.slots)))) := List.perm_middle
    _ |>.Perm (slot :: (left ++ (Bucket.without hash cache.buckets).flatMap (·.slots))) := by
      rw [← List.append_assoc]
      exact (hleft.symm.append_right _).cons _
    _ |>.Perm (slot :: (cache.setBucket hash left).slots) :=
      (slots_setBucket_perm hash left cache).symm.cons _

end Slots

/-! ## The live slots after a write -/

section Live

variable [DecidableEq H] {alive : K → Bool} {strategy : KeyStrategy H K} {hash : H} {probe : K}
  {before middle : Cache H K V} {released front behind : List (Slot K V)} {slot : Slot K V}

theorem live_added (hash : H) (h : Tidied alive before middle released)
    (hlive : slot.isLive alive = true) :
    ((middle.push hash slot).slots.filter (·.isLive alive)).Perm
      (slot :: before.slots.filter (·.isLive alive)) := by
  have hpush := (slots_push hash slot middle).filter (·.isLive alive)
  rw [List.filter_cons_of_pos hlive] at hpush
  exact hpush.trans (h.live_perm.symm.cons _)

theorem live_replaced (h : Tidied alive before middle released)
    (hits : Hits strategy alive probe (middle.shelf hash) front slot behind)
    (hlive : slot.isLive alive = true) {other : Slot K V} (hother : other.isLive alive = true) :
    ∃ rest, (before.slots.filter (·.isLive alive)).Perm (slot :: rest) ∧
      ((middle.setBucket hash (front ++ other :: behind)).slots.filter (·.isLive alive)).Perm
        (other :: rest) := by
  obtain ⟨rest, hmiddle, hafter⟩ := slots_replace hits.split
  refine ⟨rest.filter (·.isLive alive), ?_, ?_⟩
  · have hfilter := hmiddle.filter (·.isLive alive)
    rw [List.filter_cons_of_pos hlive] at hfilter
    exact h.live_perm.trans hfilter
  · have hfilter := (hafter other).filter (·.isLive alive)
    rwa [List.filter_cons_of_pos hother] at hfilter

theorem live_withdrawn {left : List (Slot K V)} (h : Tidied alive before middle released)
    (hits : Hits strategy alive probe (middle.shelf hash) front slot behind)
    (hlive : slot.isLive alive = true) (hleft : left.Perm (front ++ behind)) :
    (before.slots.filter (·.isLive alive)).Perm
      (slot :: (middle.setBucket hash left).slots.filter (·.isLive alive)) := by
  have hfilter := (slots_withdraw hits.split hleft).filter (·.isLive alive)
  rw [List.filter_cons_of_pos hlive] at hfilter
  exact h.live_perm.trans hfilter

end Live

/-- Every owner of a slot has the hash that leads to the slot. -/
def Filed [DecidableEq H] (strategy : KeyStrategy H K) (cache : Cache H K V) : Prop :=
  ∀ hash, ∀ slot ∈ cache.shelf hash, ∀ owner ∈ slot.owners, strategy.hash owner = hash

namespace Filed

variable [DecidableEq H] {strategy : KeyStrategy H K} {cache : Cache H K V}

theorem shelved (h : cache.Filed strategy) :
    cache.Shelved fun hash owners => ∀ owner ∈ owners, strategy.hash owner = hash := h

theorem empty : Filed strategy ({} : Cache H K V) := fun _ _ hslot => by cases hslot

theorem tidied {alive : K → Bool} {after : Cache H K V} {released : List (Slot K V)}
    (h : cache.Filed strategy) (ht : Tidied alive cache after released) :
    after.Filed strategy :=
  h.shelved.tidied ht

end Filed

/-! ## What can happen -/

variable [DecidableEq H] [DecidableEq K]

/-- What a call may do to the slots. It leaves the cache `after` and drops the slots `released`. -/
inductive Change (config : CacheConfig H K) (alive : K → Bool) (before : Cache H K V) :
    Cache H K V → List (Slot K V) → Prop
  /-- Some dead slots are dropped. -/
  | tidied {after released} (h : Tidied alive before after released) :
      Change config alive before after released
  /-- All slots are dropped. -/
  | emptied : Change config alive before {} before.slots
  /-- A value is stored under a living key that no slot answered to. -/
  | added {middle released} (key : K) (value : V)
      (h : Ready alive (config.strategy.hash key) before middle released)
      (living : alive key = true)
      (misses : Misses config.strategy alive key (middle.shelf (config.strategy.hash key))) :
      Change config alive before (middle.push (config.strategy.hash key) ⟨[key], value⟩) released
  /-- A living key joins the owners of the slot that answered to it. -/
  | joined {middle released front slot behind} (key : K) (value : V)
      (h : Ready alive (config.strategy.hash key) before middle released)
      (living : alive key = true)
      (hits : Hits config.strategy alive key (middle.shelf (config.strategy.hash key))
        front slot behind) :
      Change config alive before
        (middle.setBucket (config.strategy.hash key)
          (front ++ { slot.addOwner alive key with value := value } :: behind)) released
  /-- The slot that answered to a probe is taken out. -/
  | withdrawn {middle released front slot behind left} (probe : K)
      (h : Ready alive (config.strategy.hash probe) before middle released)
      (hits : Hits config.strategy alive probe (middle.shelf (config.strategy.hash probe))
        front slot behind)
      (hleft : left.Perm (front ++ behind)) :
      Change config alive before
        { middle.setBucket (config.strategy.hash probe) left with stored := middle.stored - 1 }
        released

variable {config : CacheConfig H K} {alive : K → Bool} {cache : Cache H K V}

theorem change_put (h : cache.WellFormed) {key : K} (living : alive key = true) (value : V) :
    Change config alive cache (cache.put config alive key value).cache
      (cache.put config alive key value).released := by
  obtain ⟨middle, hready, ⟨hmisses, -, hcache⟩ | ⟨front, slot, behind, hhits, -, hcache⟩⟩ :=
    put_cases config alive h key value
  · rw [hcache]
    exact .added key value hready living hmisses
  · rw [hcache]
    exact .joined key value hready living hhits

theorem change_remove (h : cache.WellFormed) (probe : K) :
    Change config alive cache (cache.remove config alive probe).cache
      (cache.remove config alive probe).released := by
  obtain ⟨middle, hready, ⟨-, -, hcache⟩ | ⟨front, slot, behind, left, hhits, hleft, -, hcache⟩⟩ :=
    remove_cases config alive h probe
  · rw [hcache]
    exact .tidied hready.toTidied
  · rw [hcache]
    exact .withdrawn probe hready hhits hleft

theorem change_settle (h : cache.WellFormed) {key : K} (living : alive key = true) (made : V) :
    Change config alive cache (cache.settle config alive key made).cache
      (cache.settle config alive key made).released := by
  obtain ⟨middle, hready, ⟨hmisses, -, -, hcache⟩ | ⟨front, slot, behind, hhits, -, -, hcache⟩⟩ :=
    settle_cases config alive h key made
  · rw [hcache]
    exact .added key made hready living hmisses
  · rw [hcache]
    exact .joined key slot.value hready living hhits

theorem change_perform (h : cache.WellFormed) (call : Call K V) :
    Change config alive cache (call.perform config alive cache).cache
      (call.perform config alive cache).released := by
  cases call with
  | put key value =>
    simp only [Call.perform]
    split
    · exact change_put h ‹_› value
    · exact .tidied (.refl h)
  | putWeak key? value =>
    simp only [Call.perform, putWeak]
    split
    · rename_i key hkey
      exact change_put h (Option.filter_eq_some_iff.mp hkey).2 value
    · exact .tidied (.refl h)
  | get probe => exact .tidied (get_ready config alive h probe).1.toTidied
  | contains probe => exact .tidied (contains_ready config alive h probe).1.toTidied
  | remove probe => exact change_remove h probe
  | size => exact .tidied (tidied_sweep h alive)
  | isEmpty => exact .tidied (tidied_sweep h alive)
  | purge => exact .tidied (tidied_sweep h alive)
  | clear => exact .emptied
  | entries => exact .tidied (.refl h)

namespace Change

variable {before after : Cache H K V} {released : List (Slot K V)}

theorem wellFormed (hchange : Change config alive before after released) :
    after.WellFormed := by
  cases hchange with
  | tidied ht => exact ht.wellFormed
  | emptied => exact .empty
  | added key value hready =>
    refine hready.wellFormed.write _ _ ?_
    simp only [shelf, List.length_append, List.length_singleton]
    omega
  | joined key value hready _ hhits =>
    refine hready.wellFormed.write _ _ ?_
    rw [hhits.split]
    simp
  | @withdrawn middle released front slot behind left probe hready hhits hleft =>
    have hperm := (slots_withdraw hhits.split hleft).length_eq
    have hstored := hready.wellFormed.stored_eq
    refine hready.wellFormed.write _ _ ?_
    rw [hhits.split, hleft.length_eq]
    simp only [List.length_append, List.length_cons] at hperm ⊢
    omega

/-- Every slot was there before with at least these owners, or has a living key among them. -/
theorem owner_mem (hchange : Change config alive before after released) {slot : Slot K V}
    (hslot : slot ∈ after.slots) {owner : K} (howner : owner ∈ slot.owners) :
    alive owner = true ∨ ∃ old ∈ before.slots, owner ∈ old.owners := by
  cases hchange with
  | tidied ht => exact .inr ⟨slot, ht.mem hslot, howner⟩
  | emptied => cases hslot
  | added key value hready living =>
    rcases mem_slots_push.mp hslot with rfl | hslot
    · rw [List.mem_singleton] at howner
      exact .inl (howner ▸ living)
    · exact .inr ⟨slot, hready.mem hslot, howner⟩
  | @joined middle released front old behind key value hready living hhits =>
    obtain ⟨rest, hmiddle, hafter⟩ := slots_replace hhits.split
    rcases List.mem_cons.mp ((hafter _).mem_iff.mp hslot) with rfl | hslot
    · have hold : old ∈ before.slots := hready.mem (hmiddle.mem_iff.mpr (by simp))
      rcases Slot.mem_addOwner.mp howner with rfl | ⟨howner, -⟩
      · exact .inl living
      · exact .inr ⟨old, hold, howner⟩
    · exact .inr ⟨slot, hready.mem (hmiddle.mem_iff.mpr (by simp [hslot])), howner⟩
  | withdrawn probe hready hhits hleft =>
    have hperm := slots_withdraw hhits.split hleft
    exact .inr ⟨slot, hready.mem (hperm.mem_iff.mpr (List.mem_cons_of_mem _ hslot)), howner⟩

/-- Every slot is where the hash of its owners leads. -/
theorem filed (h : before.Filed config.strategy)
    (hchange : Change config alive before after released) : after.Filed config.strategy := by
  cases hchange with
  | tidied ht => exact h.tidied ht
  | emptied => exact .empty
  | added key value hready =>
    refine (h.shelved.tidied hready.toTidied).push hready.wellFormed fun owner howner => ?_
    rw [List.mem_singleton.mp howner]
  | @joined middle released front old behind key value hready living hhits =>
    refine (h.shelved.tidied hready.toTidied).replace hready.wellFormed hhits fun hold => ?_
    -- the key is the only new owner
    intro owner howner
    rcases Slot.mem_addOwner.mp howner with rfl | ⟨howner, -⟩
    · rfl
    · exact hold owner howner
  | withdrawn probe hready hhits hleft =>
    exact (h.shelved.tidied hready.toTidied).withdraw hready.wellFormed hhits hleft

end Change

end PluginHost.Cache
