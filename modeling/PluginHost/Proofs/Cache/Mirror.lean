import PluginHost.Proofs.Cache.Coherence
import PluginHost.Proofs.Cache.Register

/-!
# What can be seen of a cache

What can be seen of a slot is its living owners and its value. A cache mirrors the entries of a
register if both show the same slots in some order: the register also remembers dead owners and dead
entries, and the cache those dead slots that it did not come across yet. Every call is answered
alike on both sides and leaves them alike.
-/
namespace PluginHost

variable {H K V : Type}

namespace Slot

variable {equal : (stored probe : K) → Bool} {alive : K → Bool} {key : K} {slot other : Slot K V}

/-- What can be seen of a slot. -/
def living (alive : K → Bool) (slot : Slot K V) : Slot K V :=
  { slot with owners := slot.owners.filter alive }

theorem isFor_iff : slot.isFor equal alive key = true ↔
    ∃ owner ∈ slot.owners, alive owner = true ∧ equal owner key = true := by
  simp [isFor]

theorem isLive_of_isFor (h : slot.isFor equal alive key = true) : slot.isLive alive = true := by
  obtain ⟨owner, howner, halive, -⟩ := isFor_iff.mp h
  exact isLive_iff.mpr ⟨owner, howner, halive⟩

theorem isFor_of_answers {strategy : KeyStrategy H K} (h : slot.answers strategy alive key = true) :
    slot.isFor strategy.equal alive key = true :=
  isFor_iff.mpr (exists_owner_of_answers h)

theorem value_eq_of_living (h : slot.living alive = other.living alive) :
    slot.value = other.value := by
  have hvalue : (slot.living alive).value = (other.living alive).value := by rw [h]
  exact hvalue

theorem isFor_congr (h : slot.living alive = other.living alive) :
    slot.isFor equal alive key = other.isFor equal alive key := by
  have howners : slot.owners.filter alive = other.owners.filter alive := congrArg Slot.owners h
  simp only [isFor, ← List.any_filter, howners]

theorem mem_claim [DecidableEq K] {value : V} {owner : K} :
    owner ∈ (slot.claim key value).owners ↔ owner = key ∨ owner ∈ slot.owners := by
  simp only [claim]
  split
  · rename_i hkey
    constructor
    · exact .inr
    · rintro (rfl | howner)
      · exact hkey
      · exact howner
  · simp [or_comm]

/-- A key that joins a slot and a key that claims an entry are seen alike: what the slot forgets is
dead. -/
theorem living_addOwner [DecidableEq K] (hkey : alive key = true)
    (h : slot.living alive = other.living alive) (value : V) :
    ({ slot.addOwner alive key with value := value } : Slot K V).living alive =
      (other.claim key value).living alive := by
  have howners : slot.owners.filter alive = other.owners.filter alive := congrArg Slot.owners h
  have hmem : key ∈ other.owners.filter alive ↔ key ∈ other.owners := by
    rw [List.mem_filter]
    exact and_iff_left hkey
  by_cases hjoined : key ∈ other.owners
  · simp only [living, addOwner, claim, howners, if_pos (hmem.mpr hjoined), if_pos hjoined,
      List.filter_filter, Bool.and_self]
  · simp only [living, addOwner, claim, howners, if_neg (mt hmem.mp hjoined), if_neg hjoined,
      List.filter_append, List.filter_filter, Bool.and_self]

end Slot

namespace Cache

/-! ## What can be seen -/

section Visible

variable {alive : K → Bool} {slots others : List (Slot K V)}

/-- What can be seen of slots. -/
def visible (alive : K → Bool) (slots : List (Slot K V)) : List (Slot K V) :=
  (slots.filter (·.isLive alive)).map (·.living alive)

theorem visible_perm (alive : K → Bool) (h : slots.Perm others) :
    (visible alive slots).Perm (visible alive others) :=
  (h.filter _).map _

theorem visible_cons {slot : Slot K V} (h : slot.isLive alive = true) :
    visible alive (slot :: slots) = slot.living alive :: visible alive slots := by
  simp [visible, h]

theorem visible_middle {slot : Slot K V} (h : slot.isLive alive = true) :
    (visible alive (slots ++ slot :: others)).Perm
      (slot.living alive :: visible alive (slots ++ others)) := by
  rw [← visible_cons h]
  exact visible_perm _ List.perm_middle

theorem length_visible (alive : K → Bool) (slots : List (Slot K V)) :
    (visible alive slots).length = slots.countP (·.isLive alive) := by
  rw [visible, List.length_map, List.countP_eq_length_filter]

/-- Where keys only die, what will be seen is decided by what can be seen now. -/
theorem visible_later {later : K → Bool}
    (h : ∀ slot ∈ slots, ∀ owner ∈ slot.owners, later owner = true → alive owner = true) :
    visible later (visible alive slots) = visible later slots := by
  induction slots with
  | nil => rfl
  | cons slot slots ih =>
    have hrest := ih fun other hother => h other (List.mem_cons_of_mem _ hother)
    have howners := h slot List.mem_cons_self
    by_cases hlater : slot.isLive later = true
    · obtain ⟨owner, howner, hlives⟩ := Slot.isLive_iff.mp hlater
      have hnow : slot.isLive alive = true :=
        Slot.isLive_iff.mpr ⟨owner, howner, howners owner howner hlives⟩
      have hseen : (slot.living alive).isLive later = true :=
        Slot.isLive_iff.mpr
          ⟨owner, List.mem_filter.mpr ⟨howner, howners owner howner hlives⟩, hlives⟩
      -- owners that are alive later are seen now
      have hsame : (slot.living alive).living later = slot.living later := by
        simp only [Slot.living, List.filter_filter, Slot.mk.injEq, and_true]
        refine List.filter_congr fun x hx => ?_
        cases hx' : later x with
        | false => rfl
        | true => simp [howners x hx hx']
      rw [visible_cons hnow, visible_cons hseen, visible_cons hlater, hrest, hsame]
    · rw [Bool.not_eq_true] at hlater
      have hgone : (slot.living alive).isLive later = false := by
        refine Slot.isLive_eq_false_iff.mpr fun owner howner => ?_
        exact Slot.isLive_eq_false_iff.mp hlater owner (List.mem_filter.mp howner).1
      have hskip : visible later (slot :: slots) = visible later slots := by
        simp [visible, hlater]
      rw [hskip, ← hrest]
      by_cases hnow : slot.isLive alive = true
      · rw [visible_cons hnow]
        simp [visible, hgone]
      · simp [visible, hnow]

end Visible

/-! ## Looking through the entries -/

section Entries

variable {equal : (stored probe : K) → Bool} {alive : K → Bool} {key : K}
  {entries front behind : List (Slot K V)} {entry : Slot K V}

/-- The key finds no entry. -/
def Lacks (equal : (stored probe : K) → Bool) (alive : K → Bool) (key : K)
    (entries : List (Slot K V)) : Prop :=
  ∀ entry ∈ entries, entry.isFor equal alive key = false

/-- The entry that the key finds, and the entries before and behind it. -/
structure Finds (equal : (stored probe : K) → Bool) (alive : K → Bool) (key : K)
    (entries front : List (Slot K V)) (entry : Slot K V) (behind : List (Slot K V)) : Prop where
  split : entries = front ++ entry :: behind
  isFor : entry.isFor equal alive key = true
  first : Lacks equal alive key front

theorem exists_finds (h : entry ∈ entries) (hfor : entry.isFor equal alive key = true) :
    ∃ front found behind, Finds equal alive key entries front found behind := by
  have hsome : (entries.find? (·.isFor equal alive key)).isSome :=
    List.find?_isSome.mpr ⟨entry, h, hfor⟩
  obtain ⟨found, hfound⟩ := Option.isSome_iff_exists.mp hsome
  obtain ⟨hfor, front, behind, hsplit, hfirst⟩ := List.find?_eq_some_iff_append.mp hfound
  exact ⟨front, found, behind, hsplit, hfor, fun other hother => by simpa using hfirst other hother⟩

namespace Register

theorem lookup?_of_lacks (h : Lacks equal alive key entries) :
    lookup? equal alive key entries = none := by
  rw [lookup?, List.find?_eq_none.mpr fun entry hentry => by simp [h entry hentry]]
  rfl

theorem lookup?_of_finds (h : Finds equal alive key entries front entry behind) :
    lookup? equal alive key entries = some entry.value := by
  have hfound : entries.find? (·.isFor equal alive key) = some entry := by
    refine List.find?_eq_some_iff_append.mpr ⟨h.isFor, front, behind, h.split, fun x hx => ?_⟩
    simp [h.first x hx]
  rw [lookup?, hfound]
  rfl

theorem eraseP_of_finds (h : Finds equal alive key entries front entry behind) :
    entries.eraseP (·.isFor equal alive key) = front ++ behind := by
  rw [h.split, List.eraseP_append_right _ fun x hx => by simp [h.first x hx],
    List.eraseP_cons_of_pos h.isFor]

theorem eraseP_of_lacks (h : Lacks equal alive key entries) :
    entries.eraseP (·.isFor equal alive key) = entries :=
  List.eraseP_of_forall_not fun entry hentry => by simp [h entry hentry]

variable [DecidableEq K] {value : V}

theorem store_of_lacks (h : Lacks equal alive key entries) :
    store equal alive key value entries = entries ++ [⟨[key], value⟩] := by
  induction entries with
  | nil => rfl
  | cons entry entries ih =>
    have hrest := ih fun other hother => h other (List.mem_cons_of_mem _ hother)
    rw [store, if_neg (by simp [h entry List.mem_cons_self]), hrest, List.cons_append]

theorem store_of_finds (h : Finds equal alive key entries front entry behind) :
    store equal alive key value entries = front ++ entry.claim key value :: behind := by
  obtain ⟨rfl, hfor, hfirst⟩ := h
  induction front with
  | nil => rw [List.nil_append, List.nil_append, store, if_pos hfor]
  | cons other front ih =>
    have hrest := ih fun x hx => hfirst x (List.mem_cons_of_mem _ hx)
    rw [List.cons_append, store, if_neg (by simp [hfirst other List.mem_cons_self]), hrest,
      List.cons_append]

/-- Every owner after a value was stored was an owner before, or is the key. -/
theorem owner_mem_store {owner : K} (hentry : entry ∈ store equal alive key value entries)
    (howner : owner ∈ entry.owners) :
    owner = key ∨ ∃ old ∈ entries, owner ∈ old.owners := by
  induction entries with
  | nil =>
    rw [store, List.mem_singleton] at hentry
    subst hentry
    exact .inl (List.mem_singleton.mp howner)
  | cons first others ih =>
    rw [store] at hentry
    split at hentry
    · rcases List.mem_cons.mp hentry with rfl | hentry
      · exact (Slot.mem_claim.mp howner).imp_right fun h => ⟨first, List.mem_cons_self, h⟩
      · exact .inr ⟨entry, List.mem_cons_of_mem _ hentry, howner⟩
    · rcases List.mem_cons.mp hentry with rfl | hentry
      · exact .inr ⟨entry, List.mem_cons_self, howner⟩
      · exact (ih hentry).imp_right fun ⟨old, hold, h⟩ => ⟨old, List.mem_cons_of_mem _ hold, h⟩

/-- Every owner after a call was an owner before, or is alive. -/
theorem owner_mem_perform {call : Call K V} {owner : K}
    (hentry : entry ∈ (perform equal alive entries call).2) (howner : owner ∈ entry.owners) :
    alive owner = true ∨ ∃ old ∈ entries, owner ∈ old.owners := by
  have hstored {key : K} {value : V} (hliving : alive key = true)
      (hentry : entry ∈ store equal alive key value entries) :
      alive owner = true ∨ ∃ old ∈ entries, owner ∈ old.owners := by
    rcases owner_mem_store hentry howner with rfl | hold
    · exact .inl hliving
    · exact .inr hold
  cases call with
  | put key value =>
    simp only [perform] at hentry
    split at hentry
    · exact hstored ‹_› hentry
    · exact .inr ⟨entry, hentry, howner⟩
  | putWeak key? value =>
    simp only [perform] at hentry
    split at hentry
    · rename_i hkey
      exact hstored (Option.filter_eq_some_iff.mp hkey).2 hentry
    · exact .inr ⟨entry, hentry, howner⟩
  | remove probe => exact .inr ⟨entry, List.mem_of_mem_eraseP hentry, howner⟩
  | purge => exact .inr ⟨entry, (List.mem_filter.mp hentry).1, howner⟩
  | clear => cases hentry
  | get | contains | size | isEmpty | entries => exact .inr ⟨entry, hentry, howner⟩

end Register

end Entries

/-! ## A cache and entries that show the same -/

section Mirrors

/-- The slots of the cache show what the entries show, and the entries that the cache has no slot
for any more are as many as it swept. -/
structure Mirrors (alive : K → Bool) (cache : Cache H K V) (swept : Nat)
    (entries : List (Slot K V)) : Prop where
  seen : (visible alive cache.slots).Perm (visible alive entries)
  count : entries.length = cache.slots.length + swept

namespace Mirrors

variable {strategy : KeyStrategy H K} {alive : K → Bool} {key : K} {before middle : Cache H K V}
  {released : List (Slot K V)} {slot : Slot K V} {swept : Nat} {entries : List (Slot K V)}

theorem tidied [DecidableEq H] (h : Mirrors alive before swept entries)
    (ht : Tidied alive before middle released) :
    Mirrors alive middle (swept + released.length) entries := by
  refine ⟨(ht.live_perm.symm.map _).trans h.seen, ?_⟩
  have hlength := ht.slots.length_eq
  rw [List.length_append] at hlength
  have hcount := h.count
  omega

/-- Where no slot belongs to the key, no entry does. -/
theorem lacks (h : Mirrors alive before swept entries)
    (hnone : ∀ slot, ¬Holds strategy alive before key slot) :
    Lacks strategy.equal alive key entries := by
  intro entry hentry
  by_contra hfor
  rw [Bool.not_eq_false] at hfor
  have hseen : entry.living alive ∈ visible alive entries :=
    List.mem_map.mpr ⟨entry, List.mem_filter.mpr ⟨hentry, Slot.isLive_of_isFor hfor⟩, rfl⟩
  obtain ⟨slot, hslot, hsame⟩ := List.mem_map.mp (h.seen.mem_iff.mpr hseen)
  obtain ⟨hmem, hlive⟩ := List.mem_filter.mp hslot
  rw [← Slot.isFor_congr hsame] at hfor
  obtain ⟨owner, howner, -, hequal⟩ := Slot.isFor_iff.mp hfor
  exact hnone slot ⟨hmem, hlive, owner, howner, hequal⟩

/-- Where a slot belongs to the key, the key finds an entry that looks like it. What is seen of the
other slots is seen of the other entries. -/
theorem finds (hc : strategy.Consistent) (hcoherent : Coherent strategy alive before)
    (h : Mirrors alive before swept entries) {rest : List (Slot K V)}
    (hlive : (before.slots.filter (·.isLive alive)).Perm (slot :: rest))
    (hfor : slot.isFor strategy.equal alive key = true) :
    ∃ front entry behind, Finds strategy.equal alive key entries front entry behind ∧
      slot.living alive = entry.living alive ∧
      (rest.map (·.living alive)).Perm (visible alive (front ++ behind)) := by
  have hshown : (slot.living alive :: rest.map (·.living alive)).Perm
      (visible alive entries) := (hlive.map (Slot.living alive)).symm.trans h.seen
  obtain ⟨some, hsome, hsame⟩ := List.mem_map.mp (hshown.mem_iff.mp List.mem_cons_self)
  obtain ⟨front, entry, behind, hfinds⟩ := exists_finds (List.mem_filter.mp hsome).1
    ((Slot.isFor_congr hsame).trans hfor)
  rw [hfinds.split] at hshown
  have hmoved := hshown.trans (visible_middle (Slot.isLive_of_isFor hfinds.isFor))
  -- no other slot belongs to the key, so the entry looks like this one
  have hentry : slot.living alive = entry.living alive := by
    rcases List.mem_cons.mp (hmoved.mem_iff.mpr List.mem_cons_self) with heq | hmem
    · exact heq.symm
    · obtain ⟨other, hother, heq⟩ := List.mem_map.mp hmem
      have hother' := (Slot.isFor_congr heq).trans hfinds.isFor
      obtain ⟨x, hx, -, hxkey⟩ := Slot.isFor_iff.mp hother'
      obtain ⟨y, hy, -, hykey⟩ := Slot.isFor_iff.mp hfor
      rw [hcoherent.alone hc hlive ⟨y, hy, hykey⟩ other hother x hx] at hxkey
      cases hxkey
  refine ⟨front, entry, behind, hfinds, hentry, ?_⟩
  rw [hentry] at hmoved
  exact hmoved.cons_inv

end Mirrors

end Mirrors

/-! ## Each operation -/

section Operations

open World

variable [DecidableEq H] {config : CacheConfig H K} {world : World H K V} {key : K} {swept : Nat}
  {entries : List (Slot K V)}

/-- A lookup in the bucket of a key and a lookup in the entries find the same value. -/
theorem Mirrors.lookup (hc : config.strategy.Consistent) (ho : world.Orderly config)
    (h : Mirrors world.alive world.cache swept entries) {middle : Cache H K V}
    {released : List (Slot K V)}
    (hready : Ready world.alive (config.strategy.hash key) world.cache middle released) :
    ((middle.shelf (config.strategy.hash key)).find?
        (·.answers config.strategy world.alive key)).map (·.value) =
      Register.lookup? config.strategy.equal world.alive key entries := by
  rcases misses_or_hits config.strategy world.alive key
    (middle.shelf (config.strategy.hash key)) with hmisses | ⟨front, slot, behind, hhits⟩
  · have hlacks := h.lacks fun _ => hmisses.not_holds hc ho.filed ho.coherent hready
    rw [hmisses.find?, Register.lookup?_of_lacks hlacks]
    rfl
  · have hlive := live_withdrawn hready.toTidied hhits (hready.live slot hhits.mem) (.refl _)
    obtain ⟨_, entry, _, hfinds, hsame, -⟩ :=
      h.finds hc ho.coherent hlive (Slot.isFor_of_answers hhits.answers)
    have hvalue := Slot.value_eq_of_living hsame
    rw [hhits.find?, Register.lookup?_of_finds hfinds, Option.map_some, hvalue]

/-- A new slot shows what a new entry shows. -/
theorem Mirrors.added (hliving : world.alive key = true) (value : V)
    (h : Mirrors world.alive world.cache swept entries) {middle : Cache H K V}
    {released : List (Slot K V)}
    (hready : Ready world.alive (config.strategy.hash key) world.cache middle released) :
    Mirrors world.alive (middle.push (config.strategy.hash key) ⟨[key], value⟩)
      (swept + released.length) (entries ++ [⟨[key], value⟩]) := by
  have hnew : (⟨[key], value⟩ : Slot K V).isLive world.alive = true :=
    Slot.isLive_singleton hliving
  have hmiddle := h.tidied hready.toTidied
  have hpush := slots_push (config.strategy.hash key) ⟨[key], value⟩ middle
  constructor
  · calc visible world.alive (middle.push (config.strategy.hash key) ⟨[key], value⟩).slots
      _ |>.Perm (visible world.alive (⟨[key], value⟩ :: middle.slots)) := visible_perm _ hpush
      _ |>.Perm (visible world.alive (⟨[key], value⟩ :: entries)) := by
        rw [visible_cons hnew, visible_cons hnew]
        exact hmiddle.seen.cons _
      _ |>.Perm (visible world.alive (entries ++ [⟨[key], value⟩])) :=
        visible_perm _ (List.perm_append_singleton _ _).symm
  · have hlength := hpush.length_eq
    have hcount := hmiddle.count
    rw [List.length_cons] at hlength
    rw [List.length_append, List.length_singleton]
    omega

theorem Mirrors.remove (hc : config.strategy.Consistent) (ho : world.Orderly config)
    (h : Mirrors world.alive world.cache swept entries) (probe : K) :
    (world.cache.remove config world.alive probe).answer =
        Register.lookup? config.strategy.equal world.alive probe entries ∧
      Mirrors world.alive (world.cache.remove config world.alive probe).cache
        (swept + (world.cache.remove config world.alive probe).released.length)
        (entries.eraseP (·.isFor config.strategy.equal world.alive probe)) := by
  obtain ⟨middle, hready, ⟨hmisses, hanswer, hcache⟩ |
    ⟨front, slot, behind, left, hhits, hleft, hanswer, hcache⟩⟩ :=
    remove_cases config world.alive ho.wellFormed probe
  · have hlacks := h.lacks fun _ => hmisses.not_holds hc ho.filed ho.coherent hready
    rw [hanswer, hcache, Register.lookup?_of_lacks hlacks, Register.eraseP_of_lacks hlacks]
    exact ⟨rfl, h.tidied hready.toTidied⟩
  · have hlive := live_withdrawn hready.toTidied hhits (hready.live slot hhits.mem) hleft
    obtain ⟨_, entry, _, hfinds, hsame, hrest⟩ :=
      h.finds hc ho.coherent hlive (Slot.isFor_of_answers hhits.answers)
    have hvalue := Slot.value_eq_of_living hsame
    rw [hanswer, hcache, Register.lookup?_of_finds hfinds, Register.eraseP_of_finds hfinds, hvalue]
    refine ⟨rfl, hrest, ?_⟩
    have hbefore := (slots_withdraw hhits.split hleft).length_eq
    have hentries := congrArg List.length hfinds.split
    have hcount := (h.tidied hready.toTidied).count
    simp only [List.length_cons, List.length_append, slots] at hbefore hentries hcount ⊢
    omega

variable [DecidableEq K]

theorem Mirrors.put (hc : config.strategy.Consistent) (ho : world.Orderly config)
    (h : Mirrors world.alive world.cache swept entries) (hliving : world.alive key = true)
    (value : V) :
    (world.cache.put config world.alive key value).answer =
        Register.lookup? config.strategy.equal world.alive key entries ∧
      Mirrors world.alive (world.cache.put config world.alive key value).cache
        (swept + (world.cache.put config world.alive key value).released.length)
        (Register.store config.strategy.equal world.alive key value entries) := by
  obtain ⟨middle, hready, ⟨hmisses, hanswer, hcache⟩ |
    ⟨front, slot, behind, hhits, hanswer, hcache⟩⟩ :=
    put_cases config world.alive ho.wellFormed key value
  · have hlacks := h.lacks fun _ => hmisses.not_holds hc ho.filed ho.coherent hready
    rw [hanswer, hcache, Register.lookup?_of_lacks hlacks, Register.store_of_lacks hlacks]
    exact ⟨rfl, h.added hliving value hready⟩
  · have hnew : ({ slot.addOwner world.alive key with value := value } : Slot K V).isLive
        world.alive = true := Slot.isLive_addOwner slot hliving
    obtain ⟨rest, hlive, hafter⟩ :=
      live_replaced hready.toTidied hhits (hready.live slot hhits.mem) hnew
    obtain ⟨before, entry, after, hfinds, hsame, hrest⟩ :=
      h.finds hc ho.coherent hlive (Slot.isFor_of_answers hhits.answers)
    have hvalue := Slot.value_eq_of_living hsame
    rw [hanswer, hcache, Register.lookup?_of_finds hfinds, Register.store_of_finds hfinds, hvalue]
    refine ⟨rfl, ?_, ?_⟩
    · have hclaimed : (entry.claim key value).isLive world.alive = true :=
        Slot.isLive_iff.mpr ⟨key, Slot.mem_claim.mpr (.inl rfl), hliving⟩
      refine (hafter.map (Slot.living world.alive)).trans ?_
      rw [List.map_cons, Slot.living_addOwner hliving hsame]
      exact (hrest.cons _).trans (visible_middle hclaimed).symm
    · obtain ⟨_, hmiddle, hall⟩ := slots_replace hhits.split
      have hbefore := hmiddle.length_eq
      have hnow := (hall { slot.addOwner world.alive key with value := value }).length_eq
      have hentries := congrArg List.length hfinds.split
      have hcount := (h.tidied hready.toTidied).count
      simp only [List.length_cons, List.length_append] at hbefore hnow hentries ⊢
      omega

/-- What was made for a key that still has no slot is stored like a new entry. -/
theorem Mirrors.settle (ho : world.Orderly config)
    (h : Mirrors world.alive world.cache swept entries) (hliving : world.alive key = true)
    (hnone : ∀ slot, ¬Holds config.strategy world.alive world.cache key slot) (made : V) :
    (world.cache.settle config world.alive key made).answer = made ∧
      Mirrors world.alive (world.cache.settle config world.alive key made).cache
        (swept + (world.cache.settle config world.alive key made).released.length)
        (entries ++ [⟨[key], made⟩]) := by
  obtain ⟨middle, hready, ⟨-, hanswer, -, hcache⟩ | ⟨front, slot, behind, hhits, -⟩⟩ :=
    settle_cases config world.alive ho.wellFormed key made
  · rw [hanswer, hcache]
    exact ⟨rfl, h.added hliving made hready⟩
  · exact absurd (Holds.of_hits hready hhits) (hnone slot)

end Operations

/-! ## Each call -/

section Calls

variable {alive : K → Bool} {slots others : List (Slot K V)}

/-- The entries that are listed can be seen. -/
theorem listed_visible (alive : K → Bool) (slots : List (Slot K V)) :
    (slots.filterMap fun slot => (slot.liveOwner? alive).map (·, slot.value)) =
      (visible alive slots).filterMap fun slot => slot.owners.head?.map (·, slot.value) := by
  induction slots with
  | nil => rfl
  | cons slot slots ih =>
    have holdest : slot.liveOwner? alive = (slot.living alive).owners.head? :=
      List.head?_filter.symm
    by_cases hlive : slot.isLive alive = true
    · rw [visible_cons hlive, List.filterMap_cons, List.filterMap_cons, ih, holdest]
      rfl
    · have hnone : slot.liveOwner? alive = none := by
        rw [Bool.not_eq_true] at hlive
        refine List.find?_eq_none.mpr fun owner howner => ?_
        simp [Slot.isLive_eq_false_iff.mp hlive owner howner]
      have hskip : visible alive (slot :: slots) = visible alive slots := by
        simp [visible, hlive]
      rw [hskip, ← ih, List.filterMap_cons, hnone]
      rfl

theorem listed_perm (h : (visible alive slots).Perm (visible alive others)) :
    (slots.filterMap fun slot => (slot.liveOwner? alive).map (·, slot.value)).Perm
      (others.filterMap fun slot => (slot.liveOwner? alive).map (·, slot.value)) := by
  rw [listed_visible, listed_visible]
  exact h.filterMap _

/-- After a sweep the slots are as many as the visible entries. -/
theorem Mirrors.length_sweep {cache : Cache H K V} {swept : Nat} {entries : List (Slot K V)}
    (h : Mirrors alive cache swept entries) :
    (cache.sweep alive).cache.slots.length = entries.countP (·.isLive alive) := by
  have hkept : (cache.sweep alive).cache.slots = cache.slots.filter (·.isLive alive) :=
    Bucket.flatMap_surviving alive cache.buckets
  rw [hkept, ← List.countP_eq_length_filter, ← length_visible, h.seen.length_eq,
    length_visible]

variable [DecidableEq H] [DecidableEq K] {config : CacheConfig H K} {world : World H K V}
  {swept : Nat} {entries : List (Slot K V)}

/-- A call is answered as the register answers it. -/
theorem Mirrors.perform (hc : config.strategy.Consistent) (ho : world.Orderly config)
    (h : Mirrors world.alive world.cache swept entries) (call : Call K V) :
    Agrees ((call.perform config world.alive world.cache).answer, swept)
        (Register.perform config.strategy.equal world.alive entries call).1 ∧
      Mirrors world.alive (call.perform config world.alive world.cache).cache
        (Service.sweptAfter swept (call.perform config world.alive world.cache).released.length
          call)
        (Register.perform config.strategy.equal world.alive entries call).2 := by
  have hsweep := tidied_sweep ho.wellFormed world.alive
  have hsize : (world.cache.sweep world.alive).cache.stored =
      entries.countP (·.isLive world.alive) := by
    rw [hsweep.wellFormed.stored_eq, h.length_sweep]
  cases call with
  | put key value =>
    simp only [Call.perform, Register.perform]
    split
    · obtain ⟨hanswer, hafter⟩ := h.put hc ho ‹_› value
      exact ⟨congrArg Reply.previous hanswer, hafter⟩
    · exact ⟨rfl, h⟩
  | putWeak key? value =>
    cases hkey : key?.filter world.alive with
    | none =>
      simp only [Call.perform, Register.perform, putWeak, hkey]
      exact ⟨rfl, h⟩
    | some key =>
      simp only [Call.perform, Register.perform, putWeak, hkey]
      obtain ⟨hanswer, hafter⟩ := h.put hc ho (Option.filter_eq_some_iff.mp hkey).2 value
      exact ⟨congrArg Reply.previous hanswer, hafter⟩
  | get probe =>
    obtain ⟨hready, hanswer⟩ := get_ready config world.alive ho.wellFormed probe
    rw [h.lookup hc ho hready] at hanswer
    exact ⟨congrArg Reply.found hanswer, h.tidied hready.toTidied⟩
  | contains probe =>
    obtain ⟨hready, hanswer⟩ := contains_ready config world.alive ho.wellFormed probe
    rw [← Option.isSome_map, h.lookup hc ho hready] at hanswer
    exact ⟨congrArg Reply.flag hanswer, h.tidied hready.toTidied⟩
  | remove probe =>
    obtain ⟨hanswer, hafter⟩ := h.remove hc ho probe
    exact ⟨congrArg Reply.previous hanswer, hafter⟩
  | size => exact ⟨congrArg Reply.count hsize, h.tidied hsweep⟩
  | isEmpty =>
    refine ⟨congrArg Reply.flag ?_, h.tidied hsweep⟩
    have hnone : (entries.countP (·.isLive world.alive) == 0) =
        !entries.any (·.isLive world.alive) := by
      rw [Bool.eq_iff_iff]
      simp
    show ((world.cache.sweep world.alive).cache.stored == 0) = _
    rw [hsize, hnone]
  | purge =>
    have hlength := hsweep.slots.length_eq
    have hcount := h.count
    have hlive := h.length_sweep
    have hall := List.length_eq_countP_add_countP (l := entries) (·.isLive world.alive)
    rw [List.length_append] at hlength
    constructor
    · show (world.cache.sweep world.alive).released.length + swept =
        entries.countP (!·.isLive world.alive)
      have hdead : entries.countP (!·.isLive world.alive) =
          entries.countP (fun entry => decide ¬entry.isLive world.alive = true) := by simp
      omega
    · refine ⟨?_, ?_⟩
      · have hkept : visible world.alive (entries.filter (·.isLive world.alive)) =
            visible world.alive entries := by simp [visible, List.filter_filter]
        rw [Register.perform, hkept]
        exact (h.tidied hsweep).seen
      · rw [Register.perform, ← List.countP_eq_length_filter]
        exact hlive.symm
  | clear => exact ⟨rfl, .refl _, rfl⟩
  | entries => exact ⟨listed_perm h.seen, h⟩

end Calls

end Cache

end PluginHost
