import Mathlib.Data.List.Count
import PluginHost.Proofs.Cache.World

/-!
# How values change hands

A value that is handed to a cache is stored in a slot, handed back, or destroyed. `Exchange` has a
case for each way in which a move can pass values on, and every move is one of them, whatever the
strategy: the hashes may be wrong and the equality any relation.
-/
namespace PluginHost.Cache

variable {H K V : Type}

/-! ## What a move hands in and back -/

/-- The values that a move handed in. -/
def handedBy : Move K V → Reply K V → List V
  | _, .impossible => []
  | .call (.put _ value), _ | .call (.putWeak _ value), _ | .settle _ value, _ => [value]
  | _, _ => []

/-- The values that a reply hands back. Those that it only shows stay where they are. -/
def returnedBy : Reply K V → List V
  | .previous value? => value?.toList
  | _ => []

/-- The patrons of a value are all keys that its slot was ever stored or joined under, under this
value or one that it replaced. -/
def patronsAfter [DecidableEq V] :
    Move K V → Reply K V → (V → List K) → V → List K
  | .call (.put key value), .previous replaced?, patrons
  | .call (.putWeak (some key) value), .previous replaced?, patrons =>
    Function.update patrons value (key :: replaced?.elim [] patrons)
  | .settle key _, .found (some value), patrons =>
    Function.update patrons value (key :: patrons value)
  | _, _, patrons => patrons

/-! ## The ways to pass values on -/

/-- The move stores the value under the key, as a `put` of either kind does. -/
def Stores (move : Move K V) (key : K) (value : V) : Prop :=
  move = .call (.put key value) ∨ move = .call (.putWeak (some key) value)

section Exchange

variable [DecidableEq H] [DecidableEq K] [DecidableEq V]

/-- The ways in which a move passes values on. -/
inductive Exchange (config : CacheConfig H K) (alive : K → Bool) (before : Cache H K V) :
    Move K V → Outcome H K V (Reply K V) → Prop
  /-- No value is handed in or back. -/
  | quiet {move outcome} (h : Tidied alive before outcome.cache outcome.released)
      (hrefused : outcome.refused = []) (hhanded : handedBy move outcome.answer = [])
      (hreturned : returnedBy outcome.answer = [])
      (hpatrons : ∀ patrons : V → List K, patronsAfter move outcome.answer patrons = patrons) :
      Exchange config alive before move outcome
  /-- The key is dead. -/
  | rejected (key? : Option K) (value : V) :
      Exchange config alive before (.call (.putWeak key? value))
        { answer := .refused .reclaimed, cache := before, refused := [value] }
  | emptied :
      Exchange config alive before (.call .clear)
        { answer := .acknowledged, cache := {}, released := before.slots }
  /-- The value gets a slot of its own. -/
  | added {move outcome middle} (key : K) (value : V)
      (h : Ready alive (config.strategy.hash key) before middle outcome.released)
      (hcache : outcome.cache = middle.push (config.strategy.hash key) ⟨[key], value⟩)
      (hrefused : outcome.refused = []) (hhanded : handedBy move outcome.answer = [value])
      (hreturned : returnedBy outcome.answer = [])
      (hpatrons : ∀ patrons : V → List K, patrons value = [] →
        patronsAfter move outcome.answer patrons = Function.update patrons value [key]) :
      Exchange config alive before move outcome
  /-- The value takes the place of another one. -/
  | replaced {move outcome middle front slot behind} (key : K) (value : V)
      (hmove : Stores move key value) (living : alive key = true)
      (h : Ready alive (config.strategy.hash key) before middle outcome.released)
      (hits : Hits config.strategy alive key (middle.shelf (config.strategy.hash key))
        front slot behind)
      (hcache : outcome.cache = middle.setBucket (config.strategy.hash key)
        (front ++ { slot.addOwner alive key with value := value } :: behind))
      (hrefused : outcome.refused = []) (hanswer : outcome.answer = .previous (some slot.value)) :
      Exchange config alive before move outcome
  /-- The value that was made is not needed. -/
  | joined {outcome middle front slot behind} (key : K) (made : V)
      (h : Ready alive (config.strategy.hash key) before middle outcome.released)
      (hits : Hits config.strategy alive key (middle.shelf (config.strategy.hash key))
        front slot behind)
      (hcache : outcome.cache = middle.setBucket (config.strategy.hash key)
        (front ++ slot.addOwner alive key :: behind))
      (hrefused : outcome.refused = [made]) (hanswer : outcome.answer = .found (some slot.value)) :
      Exchange config alive before (.settle key made) outcome
  | withdrawn {outcome middle front slot behind left} (probe : K)
      (h : Ready alive (config.strategy.hash probe) before middle outcome.released)
      (hits : Hits config.strategy alive probe (middle.shelf (config.strategy.hash probe))
        front slot behind)
      (hleft : left.Perm (front ++ behind))
      (hcache : outcome.cache =
        { middle.setBucket (config.strategy.hash probe) left with stored := middle.stored - 1 })
      (hrefused : outcome.refused = []) (hanswer : outcome.answer = .previous (some slot.value)) :
      Exchange config alive before (.call (.remove probe)) outcome

variable {config : CacheConfig H K} {alive : K → Bool} {cache : Cache H K V}

theorem exchange_put (h : cache.WellFormed) {move : Move K V} {key : K} {value : V}
    (hmove : Stores move key value) (living : alive key = true) :
    Exchange config alive cache move
      ((cache.put config alive key value).map Reply.previous) := by
  obtain ⟨middle, hready, ⟨-, hanswer, hcache⟩ | ⟨front, slot, behind, hhits, hanswer, hcache⟩⟩ :=
    put_cases config alive h key value
  · have hreply : ((cache.put config alive key value).map Reply.previous).answer =
        (.previous none : Reply K V) := congrArg Reply.previous hanswer
    refine .added key value hready hcache (refused_put ..) ?_ ?_ ?_
    · rw [hreply]
      rcases hmove with rfl | rfl <;> rfl
    · rw [hreply]
      rfl
    · intro patrons _
      rw [hreply]
      rcases hmove with rfl | rfl <;> rfl
  · exact .replaced key value hmove living hready hhits hcache (refused_put ..)
      (congrArg Reply.previous hanswer)

theorem exchange_remove (h : cache.WellFormed) (probe : K) :
    Exchange config alive cache (.call (.remove probe))
      ((cache.remove config alive probe).map Reply.previous) := by
  obtain ⟨middle, hready, ⟨-, hanswer, hcache⟩ |
    ⟨front, slot, behind, left, hhits, hleft, hanswer, hcache⟩⟩ :=
    remove_cases config alive h probe
  · have hreply : ((cache.remove config alive probe).map Reply.previous).answer =
        (.previous none : Reply K V) := congrArg Reply.previous hanswer
    refine .quiet ?_ (refused_remove ..) ?_ ?_ ?_
    · rw [← hcache] at hready
      exact hready.toTidied
    · rw [hreply]
      rfl
    · rw [hreply]
      rfl
    · intro patrons
      rw [hreply]
      rfl
  · exact .withdrawn probe hready hhits hleft hcache (refused_remove ..)
      (congrArg Reply.previous hanswer)

theorem exchange_settle (h : cache.WellFormed) (key : K) (made : V) :
    Exchange config alive cache (.settle key made)
      ((cache.settle config alive key made).map fun value => .found (some value)) := by
  obtain ⟨middle, hready, ⟨-, hanswer, hrefused, hcache⟩ |
    ⟨front, slot, behind, hhits, hanswer, hrefused, hcache⟩⟩ :=
    settle_cases config alive h key made
  · have hreply : ((cache.settle config alive key made).map
        fun value => (.found (some value) : Reply K V)).answer = .found (some made) :=
      congrArg (fun value : V => Reply.found (some value)) hanswer
    refine .added key made hready hcache hrefused ?_ ?_ fun patrons hfresh => ?_
    · rw [hreply]
      rfl
    · rw [hreply]
      rfl
    · rw [hreply]
      show Function.update patrons made (key :: patrons made) = _
      rw [hfresh]
  · exact .joined key made hready hhits hcache hrefused
      (congrArg (fun value : V => Reply.found (some value)) hanswer)

theorem exchange_perform (h : cache.WellFormed) (call : Call K V) :
    Exchange config alive cache (.call call) (call.perform config alive cache) := by
  have hsweep := tidied_sweep h alive
  cases call with
  | put key value =>
    simp only [Call.perform]
    split
    · exact exchange_put h (.inl rfl) ‹_›
    · exact .quiet (.refl h) rfl rfl rfl fun _ => rfl
  | putWeak key? value =>
    cases hkey : key?.filter alive with
    | none =>
      simp only [Call.perform, putWeak, hkey]
      exact .rejected key? value
    | some key =>
      obtain ⟨rfl, living⟩ := Option.filter_eq_some_iff.mp hkey
      simp only [Call.perform, putWeak, hkey]
      exact exchange_put h (.inr rfl) living
  | get probe => exact .quiet (get_ready config alive h probe).1.toTidied rfl rfl rfl fun _ => rfl
  | contains probe =>
    exact .quiet (contains_ready config alive h probe).1.toTidied rfl rfl rfl fun _ => rfl
  | remove probe => exact exchange_remove h probe
  | size => exact .quiet hsweep rfl rfl rfl fun _ => rfl
  | isEmpty => exact .quiet hsweep rfl rfl rfl fun _ => rfl
  | purge => exact .quiet hsweep rfl rfl rfl fun _ => rfl
  | clear => exact .emptied
  | entries => exact .quiet (.refl h) rfl rfl rfl fun _ => rfl

theorem exchange_respond {world : World H K V} (h : world.cache.WellFormed) (move : Move K V) :
    Exchange config world.alive world.cache move (world.respond config move) := by
  cases move with
  | key event => exact .quiet (.refl h) rfl rfl rfl fun _ => rfl
  | call call => exact exchange_perform h call
  | settle key made =>
    simp only [World.respond]
    split
    · exact exchange_settle h key made
    · exact .quiet (.refl h) rfl rfl rfl fun _ => rfl

/-! ## No value is lost or made up -/

/-- What was stored or handed in is stored, handed back or destroyed. -/
theorem Exchange.balanced {before : Cache H K V} {move : Move K V}
    {outcome : Outcome H K V (Reply K V)} (h : Exchange config alive before move outcome) :
    (before.slots.map (·.value) ++ handedBy move outcome.answer).Perm
      (outcome.cache.slots.map (·.value) ++
        (returnedBy outcome.answer ++ outcome.destroyed)) := by
  -- counted value by value, a move is an equation between numbers
  refine List.perm_iff_count.mpr fun token => ?_
  cases h with
  | quiet ht hrefused hhanded hreturned =>
    have htidied := (ht.slots.map (·.value)).count_eq token
    simp only [Outcome.destroyed, hrefused, hhanded, hreturned, List.map_append,
      List.count_append, List.count_nil] at htidied ⊢
    omega
  | rejected key? value =>
    show List.count token (before.slots.map (·.value) ++ [value]) =
      List.count token (before.slots.map (·.value) ++ ([] ++ ([] ++ [value])))
    rfl
  | emptied =>
    simp [Outcome.destroyed, handedBy, returnedBy, slots]
  | @added _ _ middle key value hready hcache hrefused hhanded hreturned =>
    have htidied := (hready.slots.map (·.value)).count_eq token
    have hpush := ((slots_push (config.strategy.hash key) ⟨[key], value⟩ middle).map
      (·.value)).count_eq token
    simp only [Outcome.destroyed, hcache, hrefused, hhanded, hreturned, List.map_append,
      List.map_cons, List.count_append, List.count_nil, List.count_cons] at htidied hpush ⊢
    omega
  | @replaced _ _ middle _ slot _ key value hmove living hready hhits hcache hrefused hanswer =>
    obtain ⟨rest, hmiddle, hafter⟩ := slots_replace hhits.split
    have htidied := (hready.slots.map (·.value)).count_eq token
    have hbefore := (hmiddle.map (·.value)).count_eq token
    have hstored := ((hafter { slot.addOwner alive key with value := value }).map
      (·.value)).count_eq token
    have hhanded : handedBy move (.previous (some slot.value) : Reply K V) = [value] := by
      rcases hmove with rfl | rfl <;> rfl
    simp only [Outcome.destroyed, hcache, hrefused, hanswer, hhanded, returnedBy,
      Option.toList_some, List.map_append, List.map_cons, List.count_append, List.count_nil,
      List.count_cons] at htidied hbefore hstored ⊢
    omega
  | @joined _ middle _ slot _ key made hready hhits hcache hrefused hanswer =>
    obtain ⟨rest, hmiddle, hafter⟩ := slots_replace hhits.split
    have htidied := (hready.slots.map (·.value)).count_eq token
    have hbefore := (hmiddle.map (·.value)).count_eq token
    have hstored := ((hafter (slot.addOwner alive key)).map (·.value)).count_eq token
    simp only [Outcome.destroyed, hcache, hrefused, hanswer, handedBy, returnedBy, Slot.addOwner,
      List.map_append, List.map_cons, List.count_append, List.count_nil,
      List.count_cons] at htidied hbefore hstored ⊢
    omega
  | @withdrawn _ middle _ slot _ left probe hready hhits hleft hcache hrefused hanswer =>
    have htidied := (hready.slots.map (·.value)).count_eq token
    have hmiddle := ((slots_withdraw hhits.split hleft).map (·.value)).count_eq token
    simp only [Outcome.destroyed, slots, hcache, hrefused, hanswer, handedBy, returnedBy,
      Option.toList_some, List.map_append, List.map_cons, List.count_append, List.count_nil,
      List.count_cons] at htidied hmiddle ⊢
    omega

/-! ## Why a value leaves its slot -/

/-- The slot still has its value, and its living owners. -/
def Stays (alive : K → Bool) (after : Cache H K V) (slot : Slot K V) : Prop :=
  ∃ later ∈ after.slots, later.value = slot.value ∧
    ∀ owner ∈ slot.owners, alive owner = true → owner ∈ later.owners

/-- The reasons for which a value leaves its slot. -/
inductive Departs (config : CacheConfig H K) (fates : Fates K) (patrons : List K)
    (move : Move K V) (outcome : Outcome H K V (Reply K V)) (slot : Slot K V) : Prop
  /-- It is handed back for the value that replaces it. -/
  | replaced (key : K) (value : V) (hmove : Stores move key value)
      (living : fates.alive key = true)
      (answers : slot.answers config.strategy fates.alive key = true)
      (hanswer : outcome.answer = .previous (some slot.value))
  /-- It is handed back to whoever removes it. -/
  | removed (probe : K) (hmove : move = .call (.remove probe))
      (answers : slot.answers config.strategy fates.alive probe = true)
      (hanswer : outcome.answer = .previous (some slot.value))
  | cleared (hmove : move = .call .clear) (hdestroyed : slot.value ∈ outcome.destroyed)
  /-- All its patrons are dead by now. -/
  | swept (hdestroyed : slot.value ∈ outcome.destroyed)
      (hdead : ∀ key ∈ patrons, fates key = .dead)

omit [DecidableEq H] [DecidableEq K] [DecidableEq V] in
theorem mem_destroyed {outcome : Outcome H K V (Reply K V)} {slot : Slot K V}
    (h : slot ∈ outcome.released) : slot.value ∈ outcome.destroyed :=
  List.mem_append_left _ (List.mem_map.mpr ⟨slot, h, rfl⟩)

theorem Exchange.stays_or_departs {fates : Fates K} {patrons : List K} {before : Cache H K V}
    {move : Move K V} {outcome : Outcome H K V (Reply K V)} {slot : Slot K V}
    (h : Exchange config fates.alive before move outcome) (hslot : slot ∈ before.slots)
    (hpatrons : slot.isLive fates.alive = false → ∀ key ∈ patrons, fates key = .dead) :
    Stays fates.alive outcome.cache slot ∨ Departs config fates patrons move outcome slot := by
  have hkept (hmem : slot ∈ outcome.cache.slots) : Stays fates.alive outcome.cache slot :=
    ⟨slot, hmem, rfl, fun _ howner _ => howner⟩
  -- whatever the move, a slot that is dropped first is dead
  have htidied {middle : Cache H K V}
      (ht : Tidied fates.alive before middle outcome.released) :
      slot ∈ middle.slots ∨ Departs config fates patrons move outcome slot := by
    rcases List.mem_append.mp (ht.slots.mem_iff.mp hslot) with hmem | hreleased
    · exact .inl hmem
    · exact .inr (.swept (mem_destroyed hreleased) (hpatrons (ht.dead slot hreleased)))
  cases h with
  | quiet ht => exact (htidied ht).imp_left hkept
  | rejected key? value => exact .inl (hkept hslot)
  | emptied => exact .inr (.cleared rfl (mem_destroyed hslot))
  | @added _ _ middle key value hready hcache =>
    refine (htidied hready.toTidied).imp_left fun hmem => hkept ?_
    rw [hcache]
    exact mem_slots_push.mpr (.inr hmem)
  | @replaced _ _ middle _ old _ key value hmove living hready hhits hcache _ hanswer =>
    rcases htidied hready.toTidied with hmem | hdeparts
    · obtain ⟨rest, hmiddle, hafter⟩ := slots_replace hhits.split
      rcases List.mem_cons.mp (hmiddle.mem_iff.mp hmem) with rfl | hrest
      · exact .inr (.replaced key value hmove living hhits.answers hanswer)
      · refine .inl (hkept ?_)
        rw [hcache]
        exact (hafter _).mem_iff.mpr (List.mem_cons_of_mem _ hrest)
    · exact .inr hdeparts
  | @joined _ middle _ old _ key made hready hhits hcache =>
    rcases htidied hready.toTidied with hmem | hdeparts
    · obtain ⟨rest, hmiddle, hafter⟩ := slots_replace hhits.split
      refine .inl ?_
      rw [hcache]
      rcases List.mem_cons.mp (hmiddle.mem_iff.mp hmem) with rfl | hrest
      · exact ⟨slot.addOwner fates.alive key, (hafter _).mem_iff.mpr List.mem_cons_self, rfl,
          fun owner howner halive => Slot.mem_addOwner.mpr (.inr ⟨howner, halive⟩)⟩
      · exact ⟨slot, (hafter _).mem_iff.mpr (List.mem_cons_of_mem _ hrest), rfl,
          fun _ howner _ => howner⟩
    · exact .inr hdeparts
  | @withdrawn _ middle _ old _ left probe hready hhits hleft hcache _ hanswer =>
    rcases htidied hready.toTidied with hmem | hdeparts
    · have hmiddle := slots_withdraw hhits.split hleft
      rcases List.mem_cons.mp (hmiddle.mem_iff.mp hmem) with rfl | hrest
      · exact .inr (.removed probe rfl hhits.answers hanswer)
      · refine .inl (hkept ?_)
        rw [hcache]
        exact hrest
    · exact .inr hdeparts

/-! ## What a slot forgets -/

/-- Every patron of the slot's value is an owner of the slot, or dead. -/
def Remembers (fates : Fates K) (patrons : V → List K) (slot : Slot K V) : Prop :=
  ∀ key ∈ patrons slot.value, key ∈ slot.owners ∨ fates key = .dead

omit [DecidableEq V] in
/-- Where a key joins a slot, only dead owners are forgotten. -/
theorem Remembers.join {fates : Fates K} {patrons : V → List K} {slot : Slot K V}
    (h : Remembers fates patrons slot)
    (hdead : ∀ owner ∈ slot.owners, fates.alive owner = false → fates owner = .dead) {joining : K}
    {key : K} (hkey : key ∈ joining :: patrons slot.value) :
    key ∈ (slot.addOwner fates.alive joining).owners ∨ fates key = .dead := by
  rcases List.mem_cons.mp hkey with rfl | hkey
  · exact .inl (Slot.mem_addOwner.mpr (.inl rfl))
  · rcases h key hkey with howner | hfate
    · cases halive : fates.alive key with
      | false => exact .inr (hdead key howner halive)
      | true => exact .inl (Slot.mem_addOwner.mpr (.inr ⟨howner, halive⟩))
    · exact .inr hfate

omit [DecidableEq K] in
/-- A slot is not concerned with the patrons of a value that it does not hold. -/
theorem Remembers.update_of_ne {fates : Fates K} {patrons : V → List K} {slot : Slot K V}
    (h : Remembers fates patrons slot) {value : V} (hne : slot.value ≠ value) (keys : List K) :
    Remembers fates (Function.update patrons value keys) slot := by
  rw [Remembers, Function.update_of_ne hne]
  exact h

/-- Every slot remembers its patrons after a move if every slot did before, given that the stored
values and those that are handed in are all different. -/
theorem Exchange.remembers {fates : Fates K} {patrons : V → List K} {before : Cache H K V}
    {move : Move K V} {outcome : Outcome H K V (Reply K V)}
    (h : Exchange config fates.alive before move outcome)
    (hdistinct : (before.slots.map (·.value) ++ handedBy move outcome.answer).Nodup)
    (hfresh : ∀ value ∈ handedBy move outcome.answer, patrons value = [])
    (hbefore : ∀ slot ∈ before.slots, Remembers fates patrons slot)
    (hdead : ∀ slot ∈ before.slots, ∀ owner ∈ slot.owners, fates.alive owner = false →
      fates owner = .dead) :
    ∀ slot ∈ outcome.cache.slots,
      Remembers fates (patronsAfter move outcome.answer patrons) slot := by
  obtain ⟨hstored, -, hnew⟩ := List.nodup_append.mp hdistinct
  intro slot hslot key hkey
  cases h with
  | quiet ht _ _ _ hpatrons =>
    rw [hpatrons] at hkey
    exact hbefore slot (ht.mem hslot) key hkey
  | rejected key? value =>
    have hpatrons : patronsAfter (.call (.putWeak key? value)) (.refused .reclaimed) patrons =
        patrons := by cases key? <;> rfl
    rw [hpatrons] at hkey
    exact hbefore slot hslot key hkey
  | emptied => cases hslot
  | @added _ _ middle owner value hready hcache _ hhanded _ hpatrons =>
    rw [hhanded] at hfresh hnew
    rw [hpatrons patrons (hfresh value List.mem_cons_self)] at hkey
    rw [hcache] at hslot
    rcases mem_slots_push.mp hslot with rfl | hslot
    · rw [Function.update_self] at hkey
      exact .inl hkey
    · have hold := hready.mem hslot
      have hne := hnew slot.value (List.mem_map.mpr ⟨slot, hold, rfl⟩) value List.mem_cons_self
      exact (hbefore slot hold).update_of_ne hne _ key hkey
  | @replaced _ _ middle _ old _ owner value hmove living hready hhits hcache _ hanswer =>
    obtain ⟨rest, hmiddle, hafter⟩ := slots_replace hhits.split
    have hhanded : handedBy move outcome.answer = [value] := by
      rw [hanswer]
      rcases hmove with rfl | rfl <;> rfl
    have hpatrons : patronsAfter move outcome.answer patrons =
        Function.update patrons value (owner :: patrons old.value) := by
      rw [hanswer]
      rcases hmove with rfl | rfl <;> rfl
    have hold := hready.mem (hmiddle.mem_iff.mpr List.mem_cons_self)
    rw [hhanded] at hnew
    rw [hpatrons] at hkey
    rw [hcache] at hslot
    rcases List.mem_cons.mp ((hafter _).mem_iff.mp hslot) with rfl | hrest
    · rw [Function.update_self] at hkey
      exact (hbefore old hold).join (hdead old hold) hkey
    · have hmem := hready.mem (hmiddle.mem_iff.mpr (List.mem_cons_of_mem _ hrest))
      have hne := hnew slot.value (List.mem_map.mpr ⟨slot, hmem, rfl⟩) value List.mem_cons_self
      exact (hbefore slot hmem).update_of_ne hne _ key hkey
  | @joined _ middle _ old _ owner made hready hhits hcache _ hanswer =>
    obtain ⟨rest, hmiddle, hafter⟩ := slots_replace hhits.split
    have hpatrons : patronsAfter (.settle owner made) outcome.answer patrons =
        Function.update patrons old.value (owner :: patrons old.value) := by
      rw [hanswer]
      rfl
    have hold := hready.mem (hmiddle.mem_iff.mpr List.mem_cons_self)
    rw [hpatrons] at hkey
    rw [hcache] at hslot
    rcases List.mem_cons.mp ((hafter _).mem_iff.mp hslot) with rfl | hrest
    · have hself : (old.addOwner fates.alive owner).value = old.value := rfl
      rw [hself, Function.update_self] at hkey
      exact (hbefore old hold).join (hdead old hold) hkey
    · have hmem := hready.mem (hmiddle.mem_iff.mpr (List.mem_cons_of_mem _ hrest))
      -- the values of the slots are different, so this slot has another one
      have hmoved := ((hready.slots.trans (hmiddle.append_right _)).map (·.value)).nodup_iff.mp
        hstored
      simp only [List.map_append, List.map_cons, List.cons_append, List.nodup_cons] at hmoved
      have hne : slot.value ≠ old.value := fun heq =>
        hmoved.1 (heq ▸ List.mem_append_left _ (List.mem_map.mpr ⟨slot, hrest, rfl⟩))
      exact (hbefore slot hmem).update_of_ne hne _ key hkey
  | @withdrawn _ middle _ old _ left probe hready hhits hleft hcache =>
    rw [hcache] at hslot
    have hmiddle := (slots_withdraw hhits.split hleft).mem_iff.mpr (List.mem_cons_of_mem _ hslot)
    exact hbefore slot (hready.mem hmiddle) key hkey

/-- A move gives patrons only to the values that it hands in and to those that are stored. -/
theorem Exchange.patronsAfter_of_ne {patrons : V → List K} {before : Cache H K V}
    {move : Move K V} {outcome : Outcome H K V (Reply K V)}
    (h : Exchange config alive before move outcome)
    (hfresh : ∀ value ∈ handedBy move outcome.answer, patrons value = []) {token : V}
    (hhanded : token ∉ handedBy move outcome.answer)
    (hstored : token ∉ before.slots.map (·.value)) :
    patronsAfter move outcome.answer patrons token = patrons token := by
  cases h with
  | quiet _ _ _ _ hpatrons => rw [hpatrons]
  | rejected key? value => cases key? <;> rfl
  | emptied => rfl
  | @added _ _ middle key value hready hcache _ hvalue _ hpatrons =>
    rw [hvalue] at hfresh hhanded
    rw [hpatrons patrons (hfresh value List.mem_cons_self),
      Function.update_of_ne (List.ne_of_not_mem_cons hhanded)]
  | replaced key value hmove living hready hhits hcache _ hanswer =>
    rw [hanswer] at hhanded ⊢
    rcases hmove with rfl | rfl
    · exact Function.update_of_ne (List.ne_of_not_mem_cons hhanded) ..
    · exact Function.update_of_ne (List.ne_of_not_mem_cons hhanded) ..
  | @joined _ middle _ slot _ key made hready hhits hcache _ hanswer =>
    have hslot : slot ∈ before.slots := hready.mem_of_hits hhits
    rw [hanswer]
    refine Function.update_of_ne (fun heq => hstored ?_) ..
    exact heq ▸ List.mem_map.mpr ⟨slot, hslot, rfl⟩
  | withdrawn => rfl

end Exchange

end PluginHost.Cache
