import PluginHost.Proofs.Cache.Backlog

/-!
# Where dead slots are

An operation that looks for a key leaves no dead slot in the bucket of that key. In other buckets
dead slots stay as they are until they are released, and a full sweep releases all of them.
-/
namespace PluginHost.Cache

variable {H K V : Type}

/-! ## The bucket that is looked into -/

section Bucket

variable [DecidableEq H] {config : CacheConfig H K} {alive : K → Bool} {hash : H}
  {before middle : Cache H K V} {released : List (Slot K V)}

/-- All slots that the hash leads to are live. -/
def LiveAt (alive : K → Bool) (hash : H) (cache : Cache H K V) : Prop :=
  ∀ slot ∈ cache.shelf hash, slot.isLive alive = true

theorem liveAt_iff_shelved {cache : Cache H K V} :
    cache.LiveAt alive hash ↔
      cache.Shelved fun other owners => other = hash → owners.any alive = true :=
  ⟨fun h _ slot hslot heq => h slot (heq ▸ hslot), fun h slot hslot => h hash slot hslot rfl⟩

namespace LiveAt

variable {slot other : Slot K V} {front behind left : List (Slot K V)} {probe : K}

theorem push (h : middle.LiveAt alive hash) (hw : middle.WellFormed)
    (hslot : slot.isLive alive = true) : (middle.push hash slot).LiveAt alive hash :=
  liveAt_iff_shelved.mpr ((liveAt_iff_shelved.mp h).push hw fun _ => hslot)

theorem replace (h : middle.LiveAt alive hash) (hw : middle.WellFormed)
    (hhits : Hits config.strategy alive probe (middle.shelf hash) front slot behind)
    (hother : other.isLive alive = true) :
    (middle.setBucket hash (front ++ other :: behind)).LiveAt alive hash :=
  liveAt_iff_shelved.mpr ((liveAt_iff_shelved.mp h).replace hw hhits fun _ _ => hother)

theorem withdraw {stored : Nat} (h : middle.LiveAt alive hash) (hw : middle.WellFormed)
    (hhits : Hits config.strategy alive probe (middle.shelf hash) front slot behind)
    (hleft : left.Perm (front ++ behind)) :
    LiveAt alive hash { middle.setBucket hash left with stored := stored } :=
  liveAt_iff_shelved.mpr ((liveAt_iff_shelved.mp h).withdraw hw hhits hleft)

end LiveAt

theorem liveAt_remove (h : before.WellFormed) (probe : K) :
    (before.remove config alive probe).cache.LiveAt alive (config.strategy.hash probe) := by
  obtain ⟨middle, hready, ⟨-, -, hcache⟩ | ⟨front, slot, behind, left, hhits, hleft, -, hcache⟩⟩ :=
    remove_cases config alive h probe
  · rw [hcache]
    exact hready.live
  · rw [hcache]
    exact LiveAt.withdraw hready.live hready.wellFormed hhits hleft

variable [DecidableEq K] {key : K}

theorem liveAt_put (h : before.WellFormed) (living : alive key = true) (value : V) :
    (before.put config alive key value).cache.LiveAt alive (config.strategy.hash key) := by
  obtain ⟨middle, hready, ⟨-, -, hcache⟩ | ⟨front, slot, behind, hhits, -, hcache⟩⟩ :=
    put_cases config alive h key value
  · rw [hcache]
    exact LiveAt.push hready.live hready.wellFormed (Slot.isLive_singleton living)
  · rw [hcache]
    exact LiveAt.replace hready.live hready.wellFormed hhits (slot.isLive_addOwner living)

theorem liveAt_settle (h : before.WellFormed) (living : alive key = true) (made : V) :
    (before.settle config alive key made).cache.LiveAt alive (config.strategy.hash key) := by
  obtain ⟨middle, hready, ⟨-, -, -, hcache⟩ | ⟨front, slot, behind, hhits, -, -, hcache⟩⟩ :=
    settle_cases config alive h key made
  · rw [hcache]
    exact LiveAt.push hready.live hready.wellFormed (Slot.isLive_singleton living)
  · rw [hcache]
    exact LiveAt.replace hready.live hready.wellFormed hhits (slot.isLive_addOwner living)

/-- The key that a call looks for. A key to be stored under is looked for only while it lives. -/
def Call.key? (alive : K → Bool) : Call K V → Option K
  | .put key _ => (some key).filter alive
  | .putWeak key? _ => key?.filter alive
  | .get probe | .contains probe | .remove probe => some probe
  | .size | .isEmpty | .purge | .clear | .entries => none

/-- A call that looks for a key stores something under it, or is one of three others. -/
theorem Call.puts_or_asks {call : Call K V} (hkey : call.key? alive = some key)
    (before : Cache H K V) :
    (alive key = true ∧ ∃ value, (call.perform config alive before).cache =
        (before.put config alive key value).cache) ∨
      call = .get key ∨ call = .contains key ∨ call = .remove key := by
  cases call with
  | put owner value =>
    obtain ⟨rfl, living⟩ : owner = key ∧ alive key = true := by
      simpa [Call.key?, Option.filter_eq_some_iff] using hkey
    refine .inl ⟨living, value, ?_⟩
    simp only [Call.perform, living, if_true]
    rfl
  | putWeak owner? value =>
    replace hkey : owner?.filter alive = some key := hkey
    refine .inl ⟨(Option.filter_eq_some_iff.mp hkey).2, value, ?_⟩
    simp only [Call.perform, Cache.putWeak, hkey]
    rfl
  | get probe => exact .inr (.inl (congrArg _ (Option.some.inj hkey)))
  | contains probe => exact .inr (.inr (.inl (congrArg _ (Option.some.inj hkey))))
  | remove probe => exact .inr (.inr (.inr (congrArg _ (Option.some.inj hkey))))
  | size => cases hkey
  | isEmpty => cases hkey
  | purge => cases hkey
  | clear => cases hkey
  | entries => cases hkey

theorem liveAt_perform (h : before.WellFormed) {call : Call K V}
    (hkey : call.key? alive = some key) :
    (call.perform config alive before).cache.LiveAt alive (config.strategy.hash key) := by
  rcases Call.puts_or_asks hkey before with ⟨living, value, hcache⟩ | rfl | rfl | rfl
  · rw [hcache]
    exact liveAt_put h living value
  · exact (get_ready config alive h key).1.live
  · exact (contains_ready config alive h key).1.live
  · exact liveAt_remove h key

end Bucket

/-! ## What becomes of dead slots -/

section Dead

variable [DecidableEq H] [DecidableEq K] {config : CacheConfig H K} {alive : K → Bool}
  {before after : Cache H K V} {released : List (Slot K V)}

/-- Dead slots stay as they are or are released: none is made, changed or handed out. -/
theorem Change.perm_filter (h : Change config alive before after released)
    {p : Slot K V → Bool} (hdead : ∀ slot, p slot = true → slot.isLive alive = false) :
    (before.slots.filter p).Perm (after.slots.filter p ++ released.filter p) := by
  have hlive {slot : Slot K V} (hlive : slot.isLive alive = true) : ¬p slot = true := fun hp => by
    rw [hdead slot hp] at hlive
    cases hlive
  have htidied {middle : Cache H K V} (ht : Tidied alive before middle released) :
      (before.slots.filter p).Perm (middle.slots.filter p ++ released.filter p) := by
    rw [← List.filter_append]
    exact ht.slots.filter p
  cases h with
  | tidied ht => exact htidied ht
  | emptied => exact .refl _
  | @added middle _ key value hready living =>
    have hpush := (slots_push (config.strategy.hash key) ⟨[key], value⟩ middle).filter p
    rw [List.filter_cons_of_neg (hlive (Slot.isLive_singleton living))] at hpush
    exact (htidied hready.toTidied).trans (hpush.symm.append_right _)
  | @joined middle _ front slot behind key value hready living hhits =>
    obtain ⟨rest, hmiddle, hafter⟩ := slots_replace hhits.split
    have hold := hmiddle.filter p
    have hnew := (hafter { slot.addOwner alive key with value := value }).filter p
    have hjoined : Slot.isLive alive { slot.addOwner alive key with value := value } = true :=
      slot.isLive_addOwner living
    rw [List.filter_cons_of_neg (hlive (hready.live slot hhits.mem))] at hold
    rw [List.filter_cons_of_neg (hlive hjoined)] at hnew
    exact (htidied hready.toTidied).trans ((hold.trans hnew.symm).append_right _)
  | @withdrawn middle _ front slot behind left probe hready hhits hleft =>
    have hold := (slots_withdraw hhits.split hleft).filter p
    rw [List.filter_cons_of_neg (hlive (hready.live slot hhits.mem))] at hold
    exact (htidied hready.toTidied).trans (hold.append_right _)

/-- What is released was dead, unless everything is. -/
theorem Change.empty_or_dead (h : Change config alive before after released) :
    after.slots = [] ∨ ∀ slot ∈ released, slot.isLive alive = false := by
  cases h with
  | tidied ht => exact .inr ht.dead
  | emptied => exact .inl rfl
  | added key value hready => exact .inr hready.dead
  | joined key value hready => exact .inr hready.dead
  | withdrawn probe hready => exact .inr hready.dead

/-- Where as many slots are released as were dead, none of those that stay is dead. -/
theorem Change.all_live (h : Change config alive before after released)
    (hreleased : before.slots.length ≤
      before.slots.countP (·.isLive alive) + released.length) :
    ∀ slot ∈ after.slots, slot.isLive alive = true := by
  rcases h.empty_or_dead with hempty | hdead
  · simp [hempty]
  · have hperm := (h.perm_filter (p := fun slot => !slot.isLive alive) (by simp)).length_eq
    have hall : released.filter (fun slot => !slot.isLive alive) = released :=
      List.filter_eq_self.mpr fun slot hslot => by simp [hdead slot hslot]
    have hsplit := Bucket.length_live_add_length_dead alive before.slots
    rw [List.countP_eq_length_filter] at hreleased
    rw [hall, List.length_append] at hperm
    have hnone : (after.slots.filter (fun slot => !slot.isLive alive)).length = 0 := by omega
    intro slot hslot
    simpa using List.filter_eq_nil_iff.mp (List.length_eq_zero_iff.mp hnone) slot hslot

end Dead

namespace World

variable {config : CacheConfig H K} {world : World H K V}

theorem counts_call (world : World H K V) (call : Call K V) :
    world.counts (.call call) = (call.key? world.alive).isSome := by
  cases call with
  | put key value => cases hliving : world.alive key <;> simp [counts, Call.key?, hliving]
  | putWeak key? value => cases key? <;> simp [counts, Call.key?, Option.isSome_filter]
  | _ => rfl

variable [DecidableEq H] [DecidableEq K]

/-- An operation that counts is not passed over: it sweeps everything, or brings that nearer. -/
theorem sinceSweep_of_counts {move : Move K V} (hcounts : world.counts move = true) :
    (world.respond config move).cache.sinceSweep =
      (world.cache.countOperation config.sweepFloor world.alive).cache.sinceSweep := by
  cases move with
  | key event => cases hcounts
  | settle key made => cases hcounts
  | call call =>
    rw [counts_call, Option.isSome_iff_exists] at hcounts
    obtain ⟨key, hkey⟩ := hcounts
    have hrespond : world.respond config (.call call) =
        call.perform config world.alive world.cache := rfl
    rw [hrespond]
    rcases Call.puts_or_asks hkey world.cache with ⟨-, value, hcache⟩ | rfl | rfl | rfl
    · rw [hcache]
      exact sinceSweep_put
    · rfl
    · rfl
    · exact sinceSweep_remove

omit [DecidableEq H] [DecidableEq K] in
/-- Where a counted operation does not sweep, no sweep was due. -/
theorem not_due_of_keptBy {floor : UInt64} {move : Move K V} (hcounts : world.counts move = true)
    (hkept : world.keptBy floor move = none) : ¬world.cache.isDue floor = true := by
  intro hdue
  simp only [keptBy] at hkept
  split at hkept
  · cases hcounts
  · cases hcounts
  · cases hcounts
  · cases hcounts
  · simp [hcounts, hdue] at hkept

end World

end PluginHost.Cache
