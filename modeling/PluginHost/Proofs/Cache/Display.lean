import Mathlib.Data.List.Nodup
import PluginHost.Proofs.Cache.Mirror

/-!
# What a cache shows under each hash

The display of a cache is what can be seen of its slots, hash by hash and in their order. Dropping
dead slots leaves the display as it is, whenever it happens. What an operation answers and what it
does to the display depend on the display alone, for every strategy: also for one that finds a key
under several slots or finds one slot for keys that are not equal, where the order of the slots
decides.
-/
namespace PluginHost

variable {H K V : Type}

namespace Bucket

variable [DecidableEq H]

/-- Buckets that have no more slots under any hash have no more slots taken together. -/
theorem subperm_of_sublist {buckets others : List (Bucket H K V)} (h : Tidy buckets)
    (ho : Tidy others)
    (hsub : ∀ hash, (slotsAt hash buckets).Sublist (slotsAt hash others)) :
    (buckets.flatMap (·.slots)).Subperm (others.flatMap (·.slots)) := by
  induction buckets generalizing others with
  | nil => exact List.nil_subperm
  | cons bucket buckets ih =>
    have hfirst : bucket.slots.Sublist (slotsAt bucket.hash others) := by
      simpa [slotsAt] using hsub bucket.hash
    have hrest : (buckets.flatMap (·.slots)).Subperm
        ((without bucket.hash others).flatMap (·.slots)) := by
      refine ih h.tail (ho.setSlots _ _) fun hash => ?_
      by_cases hsame : hash = bucket.hash
      · subst hsame
        rw [slotsAt_eq_nil h.head]
        exact List.nil_sublist _
      · rw [without, slotsAt_setSlots_ne hsame]
        simpa [slotsAt, Ne.symm hsame] using hsub hash
    obtain ⟨chosen, hperm, hchosen⟩ := hrest
    have hall : (bucket.slots ++ chosen).Subperm (slotsAt bucket.hash others ++
        (without bucket.hash others).flatMap (·.slots)) := (hfirst.append hchosen).subperm
    exact ((hperm.symm.append_left _).subperm.trans hall).trans
      (perm_slotsAt_append _ _).symm.subperm

theorem mem_iff_slotsAt {buckets : List (Bucket H K V)} (h : Tidy buckets) {hash : H}
    {slots : List (Slot K V)} :
    ⟨hash, slots⟩ ∈ buckets ↔ slots = slotsAt hash buckets ∧ slots ≠ [] := by
  induction buckets with
  | nil => simp [slotsAt]
  | cons bucket others ih =>
    by_cases hsame : bucket.hash = hash
    · subst hsame
      have hnone : (⟨bucket.hash, slots⟩ : Bucket H K V) ∉ others := fun hmem =>
        h.head (List.mem_map.mpr ⟨_, hmem, rfl⟩)
      have hslots := h.nonempty bucket List.mem_cons_self
      simp only [List.mem_cons, hnone, or_false, slotsAt, if_true]
      constructor
      · intro heq
        rw [← heq] at hslots ⊢
        exact ⟨rfl, hslots⟩
      · rintro ⟨rfl, -⟩
        rfl
    · have hother : (⟨hash, slots⟩ : Bucket H K V) ≠ bucket := fun heq => hsame (heq ▸ rfl)
      simp [slotsAt, hsame, hother, ih h.tail]

end Bucket

namespace Slot

variable {strategy : KeyStrategy H K} {alive : K → Bool} {key probe : K} {slot : Slot K V}

/-- Whether a probe names a slot can be seen. -/
theorem answers_living :
    (slot.living alive).answers strategy alive probe = slot.answers strategy alive probe := by
  simp [answers, liveOwner?, living, List.find?_filter]

theorem isLive_of_answers (h : slot.answers strategy alive probe = true) :
    slot.isLive alive = true :=
  isLive_of_isFor (isFor_of_answers h)

/-- A key that joins a slot joins what can be seen of it. -/
theorem addOwner_living [DecidableEq K] (hkey : alive key = true) :
    (slot.addOwner alive key).living alive = (slot.living alive).addOwner alive key := by
  by_cases hjoined : key ∈ slot.owners <;>
    simp [living, addOwner, hjoined, hkey, List.filter_filter]

end Slot

namespace Cache

/-! ## Operations on the slots of one hash -/

section Shelf

variable (strategy : KeyStrategy H K) (alive : K → Bool) (key : K)

/-- The value of the first slot that a key names. -/
def found? (slots : List (Slot K V)) : Option V :=
  (slots.find? (·.answers strategy alive key)).map (·.value)

/-- Works on the first slot that a key names together with the slots behind it. Where the key names
none, `missed` is appended. -/
def workAtFirst (work : Slot K V → List (Slot K V) → List (Slot K V)) (missed : List (Slot K V)) :
    List (Slot K V) → List (Slot K V)
  | [] => missed
  | slot :: behind =>
    if slot.answers strategy alive key then work slot behind
    else slot :: workAtFirst work missed behind

/-- Changes the first slot that a key names, or appends a new one. -/
def upsert (change : Slot K V → Slot K V) (new : Slot K V) : List (Slot K V) → List (Slot K V) :=
  workAtFirst strategy alive key (fun slot behind => change slot :: behind) [new]

/-- Takes out the first slot that a key names, and moves the last one into its place. -/
def withdraw : List (Slot K V) → List (Slot K V) :=
  workAtFirst strategy alive key (fun _ behind => refill behind) []

end Shelf

section Lookup

variable {strategy : KeyStrategy H K} {alive : K → Bool} {key : K}
  {slots front behind : List (Slot K V)} {slot : Slot K V} {change : Slot K V → Slot K V}
  {new : Slot K V}

theorem Misses.found? (h : Misses strategy alive key slots) :
    found? strategy alive key slots = none := by
  rw [Cache.found?, h.find?, Option.map_none]

theorem Hits.found? (h : Hits strategy alive key slots front slot behind) :
    found? strategy alive key slots = some slot.value := by
  rw [Cache.found?, h.find?, Option.map_some]

theorem Misses.workAtFirst {work : Slot K V → List (Slot K V) → List (Slot K V)}
    {missed : List (Slot K V)} (h : Misses strategy alive key slots) :
    workAtFirst strategy alive key work missed slots = slots ++ missed := by
  induction slots with
  | nil => rfl
  | cons slot slots ih =>
    have hrest := ih fun other hother => h other (List.mem_cons_of_mem _ hother)
    rw [Cache.workAtFirst, if_neg (by simp [h slot List.mem_cons_self]), hrest, List.cons_append]

theorem Hits.workAtFirst {work : Slot K V → List (Slot K V) → List (Slot K V)}
    {missed : List (Slot K V)} (h : Hits strategy alive key slots front slot behind) :
    workAtFirst strategy alive key work missed slots = front ++ work slot behind := by
  obtain ⟨rfl, hanswers, hfirst⟩ := h
  induction front with
  | nil => rw [List.nil_append, List.nil_append, Cache.workAtFirst, if_pos hanswers]
  | cons other front ih =>
    have hrest := ih fun x hx => hfirst x (List.mem_cons_of_mem _ hx)
    rw [List.cons_append, Cache.workAtFirst, if_neg (by simp [hfirst other List.mem_cons_self]),
      hrest, List.cons_append]

theorem Misses.upsert (h : Misses strategy alive key slots) :
    upsert strategy alive key change new slots = slots ++ [new] :=
  h.workAtFirst

theorem Hits.upsert (h : Hits strategy alive key slots front slot behind) :
    upsert strategy alive key change new slots = front ++ change slot :: behind :=
  h.workAtFirst

theorem Misses.withdraw (h : Misses strategy alive key slots) :
    withdraw strategy alive key slots = slots :=
  h.workAtFirst.trans (List.append_nil slots)

theorem Hits.withdraw (h : Hits strategy alive key slots front slot behind) :
    withdraw strategy alive key slots = front ++ refill behind :=
  h.workAtFirst

/-! ## Looking through what can be seen -/

theorem visible_append (alive : K → Bool) (slots others : List (Slot K V)) :
    visible alive (slots ++ others) = visible alive slots ++ visible alive others := by
  simp [visible]

theorem visible_of_live (h : ∀ slot ∈ slots, slot.isLive alive = true) :
    visible alive slots = slots.map (·.living alive) := by
  rw [visible, List.filter_eq_self.mpr h]

theorem Misses.visible (h : Misses strategy alive key slots) :
    Misses strategy alive key (visible alive slots) := by
  intro slot hslot
  obtain ⟨seen, hseen, rfl⟩ := List.mem_map.mp hslot
  rw [Slot.answers_living]
  exact h seen (List.mem_filter.mp hseen).1

theorem Hits.visible (h : Hits strategy alive key slots front slot behind) :
    Hits strategy alive key (visible alive slots) (visible alive front) (slot.living alive)
      (visible alive behind) where
  split := by rw [h.split, visible_append, visible_cons (Slot.isLive_of_answers h.answers)]
  answers := Slot.answers_living.trans h.answers
  first := h.first.visible

theorem found?_visible (strategy : KeyStrategy H K) (alive : K → Bool) (key : K)
    (slots : List (Slot K V)) :
    found? strategy alive key (visible alive slots) = found? strategy alive key slots := by
  rcases misses_or_hits strategy alive key slots with hmisses | ⟨_, slot, _, hhits⟩
  · rw [hmisses.visible.found?, hmisses.found?]
  · rw [hhits.visible.found?, hhits.found?]
    rfl

theorem visible_new {value : V} (h : alive key = true) :
    visible alive [⟨[key], value⟩] = ([⟨[key], value⟩] : List (Slot K V)) := by
  simp [visible, Slot.living, Slot.isLive, h]

end Lookup

/-! ## The display -/

section Display

variable [DecidableEq H] {alive : K → Bool} {before after : Cache H K V}
  {released : List (Slot K V)}

/-- What can be seen under each hash. -/
def display (alive : K → Bool) (cache : Cache H K V) (hash : H) : List (Slot K V) :=
  visible alive (cache.shelf hash)

/-- No live slot leaves its place when dead ones are dropped. -/
theorem Tidied.live_shelf (h : Tidied alive before after released) (hb : before.WellFormed)
    (hash : H) :
    (after.shelf hash).filter (·.isLive alive) = (before.shelf hash).filter (·.isLive alive) := by
  have hshelf := (h.sublist hash).filter (·.isLive alive)
  refine hshelf.eq_of_length ?_
  -- no hash has more live slots than before, so if one had fewer, there were fewer in all
  have hothers : ((Bucket.without hash after.buckets).flatMap (·.slots)).Subperm
      ((Bucket.without hash before.buckets).flatMap (·.slots)) := by
    refine Bucket.subperm_of_sublist (h.wellFormed.tidy.setSlots hash [])
      (hb.tidy.setSlots hash []) fun other => ?_
    by_cases hsame : other = hash
    · subst hsame
      rw [Bucket.without, Bucket.slotsAt_setSlots_self h.wellFormed.tidy]
      exact List.nil_sublist _
    · rw [Bucket.without, Bucket.without, Bucket.slotsAt_setSlots_ne hsame,
        Bucket.slotsAt_setSlots_ne hsame]
      exact h.sublist other
  have hfew := (hothers.filter (·.isLive alive)).length_le
  have hall := h.live_perm.length_eq
  have hbefore := ((slots_perm_shelf hash before).filter (·.isLive alive)).length_eq
  have hafter := ((slots_perm_shelf hash after).filter (·.isLive alive)).length_eq
  have hless := hshelf.length_le
  simp only [List.filter_append, List.length_append] at hbefore hafter
  omega

theorem Tidied.display (h : Tidied alive before after released) (hb : before.WellFormed) :
    after.display alive = before.display alive := by
  funext hash
  rw [Cache.display, visible, h.live_shelf hb]
  rfl

theorem display_setBucket (h : before.WellFormed) (alive : K → Bool) (hash : H)
    (slots : List (Slot K V)) :
    (before.setBucket hash slots).display alive =
      Function.update (before.display alive) hash (visible alive slots) := by
  funext other
  by_cases hsame : other = hash
  · subst hsame
    rw [Function.update_self, display, shelf_setBucket_self h]
  · rw [Function.update_of_ne hsame, display, shelf_setBucket_ne hsame, display]

theorem display_push (h : before.WellFormed) (alive : K → Bool) (hash : H) (slot : Slot K V) :
    (before.push hash slot).display alive =
      Function.update (before.display alive) hash
        (before.display alive hash ++ visible alive [slot]) := by
  rw [display, ← visible_append]
  exact display_setBucket h alive hash _

end Display

/-! ## One lemma for each operation -/

section Operations

variable [DecidableEq H] (config : CacheConfig H K) {cache : Cache H K V} (alive : K → Bool)

theorem get_display (h : cache.WellFormed) (probe : K) :
    (cache.get config alive probe).answer =
        found? config.strategy alive probe (cache.display alive (config.strategy.hash probe)) ∧
      (cache.get config alive probe).cache.display alive = cache.display alive := by
  obtain ⟨hready, hanswer⟩ := get_ready config alive h probe
  have hsame := hready.display h
  rw [← hsame]
  exact ⟨hanswer.trans (found?_visible ..).symm, rfl⟩

theorem contains_display (h : cache.WellFormed) (probe : K) :
    (cache.contains config alive probe).answer =
        (found? config.strategy alive probe
          (cache.display alive (config.strategy.hash probe))).isSome ∧
      (cache.contains config alive probe).cache.display alive = cache.display alive := by
  obtain ⟨hready, hanswer⟩ := contains_ready config alive h probe
  have hsame := hready.display h
  rw [← hsame, display, found?_visible, found?, Option.isSome_map]
  exact ⟨hanswer, rfl⟩

theorem sweep_display (h : cache.WellFormed) :
    (cache.sweep alive).cache.display alive = cache.display alive :=
  (tidied_sweep h alive).display h

theorem remove_display (h : cache.WellFormed) (probe : K) :
    (cache.remove config alive probe).answer =
        found? config.strategy alive probe (cache.display alive (config.strategy.hash probe)) ∧
      (cache.remove config alive probe).cache.display alive =
        Function.update (cache.display alive) (config.strategy.hash probe)
          (withdraw config.strategy alive probe
            (cache.display alive (config.strategy.hash probe))) := by
  obtain ⟨middle, hready, ⟨hmisses, hanswer, hcache⟩ |
    ⟨front, slot, behind, hhits, hanswer, hcache⟩⟩ := remove_refills config alive h probe
  all_goals
    rw [hanswer, hcache, ← hready.display h]
  · have hseen := hmisses.visible
    exact ⟨hseen.found?.symm, by rw [display, hseen.withdraw, ← display, Function.update_eq_self]⟩
  · have hseen := hhits.visible
    refine ⟨hseen.found?.symm, ?_⟩
    have hlive : ∀ other ∈ behind, other.isLive alive = true := fun other hother =>
      hready.live other (hhits.split ▸ by simp [hother])
    have hrefill : visible alive (refill behind) = refill (visible alive behind) := by
      rw [visible_of_live hlive, refill_map]
      exact visible_of_live fun other hother => hlive other ((refill_perm behind).mem_iff.mp hother)
    rw [display, hseen.withdraw, ← hrefill, ← visible_append]
    exact display_setBucket hready.wellFormed alive _ _

/-- A new slot is shown where a key names no slot that is shown. -/
theorem display_added {strategy : KeyStrategy H K} {alive : K → Bool} {key : K}
    {middle : Cache H K V} (h : middle.WellFormed) (hkey : alive key = true)
    (hmisses : Misses strategy alive key (middle.shelf (strategy.hash key)))
    (change : Slot K V → Slot K V) (value : V) :
    (middle.push (strategy.hash key) ⟨[key], value⟩).display alive =
      Function.update (middle.display alive) (strategy.hash key)
        (upsert strategy alive key change ⟨[key], value⟩
          (middle.display alive (strategy.hash key))) := by
  have hseen := hmisses.visible
  rw [display_push h, visible_new hkey, display, hseen.upsert]

/-- A changed slot is shown where the key names the slot that is shown of it. -/
theorem display_changed {strategy : KeyStrategy H K} {alive : K → Bool} {key : K}
    {middle : Cache H K V} {front behind : List (Slot K V)} {slot changed : Slot K V}
    (h : middle.WellFormed)
    (hhits : Hits strategy alive key (middle.shelf (strategy.hash key)) front slot behind)
    (hlive : changed.isLive alive = true) {change : Slot K V → Slot K V}
    (hchange : changed.living alive = change (slot.living alive)) (new : Slot K V) :
    (middle.setBucket (strategy.hash key) (front ++ changed :: behind)).display alive =
      Function.update (middle.display alive) (strategy.hash key)
        (upsert strategy alive key change new (middle.display alive (strategy.hash key))) := by
  have hseen := hhits.visible
  rw [display_setBucket h, visible_append, visible_cons hlive, hchange, display, hseen.upsert]

variable [DecidableEq K]

theorem put_display (h : cache.WellFormed) {key : K} (hkey : alive key = true) (value : V) :
    (cache.put config alive key value).answer =
        found? config.strategy alive key (cache.display alive (config.strategy.hash key)) ∧
      (cache.put config alive key value).cache.display alive =
        Function.update (cache.display alive) (config.strategy.hash key)
          (upsert config.strategy alive key
            (fun slot => { slot.addOwner alive key with value := value }) ⟨[key], value⟩
            (cache.display alive (config.strategy.hash key))) := by
  obtain ⟨middle, hready, ⟨hmisses, hanswer, hcache⟩ |
    ⟨front, slot, behind, hhits, hanswer, hcache⟩⟩ := put_cases config alive h key value
  all_goals
    rw [hanswer, hcache, ← hready.display h]
  · exact ⟨hmisses.visible.found?.symm, display_added hready.wellFormed hkey hmisses _ value⟩
  · have hlive : ({ slot.addOwner alive key with value := value } : Slot K V).isLive alive = true :=
      Slot.isLive_addOwner slot hkey
    have hchange : ({ slot.addOwner alive key with value := value } : Slot K V).living alive =
        { (slot.living alive).addOwner alive key with value := value } := by
      rw [← Slot.addOwner_living hkey]
      rfl
    exact ⟨hhits.visible.found?.symm,
      display_changed hready.wellFormed hhits hlive hchange ⟨[key], value⟩⟩

/-- What was made is the answer only where nothing was found. -/
theorem settle_display (h : cache.WellFormed) {key : K} (hkey : alive key = true) (made : V) :
    (cache.settle config alive key made).answer =
        (found? config.strategy alive key
          (cache.display alive (config.strategy.hash key))).getD made ∧
      (cache.settle config alive key made).cache.display alive =
        Function.update (cache.display alive) (config.strategy.hash key)
          (upsert config.strategy alive key (·.addOwner alive key) ⟨[key], made⟩
            (cache.display alive (config.strategy.hash key))) := by
  obtain ⟨middle, hready, ⟨hmisses, hanswer, -, hcache⟩ |
    ⟨front, slot, behind, hhits, hanswer, -, hcache⟩⟩ := settle_cases config alive h key made
  all_goals
    rw [hanswer, hcache, ← hready.display h]
  · refine ⟨?_, display_added hready.wellFormed hkey hmisses _ made⟩
    rw [display, hmisses.visible.found?, Option.getD_none]
  · refine ⟨?_, display_changed hready.wellFormed hhits (Slot.isLive_addOwner slot hkey)
      (Slot.addOwner_living hkey) ⟨[key], made⟩⟩
    rw [display, hhits.visible.found?, Option.getD_some]
    rfl

end Operations

/-! ## What is listed -/

section Listing

variable {alive : K → Bool} {cache : Cache H K V}

/-- The entries that are listed of slots. -/
def listed (alive : K → Bool) (slots : List (Slot K V)) : List (K × V) :=
  slots.filterMap fun slot => (slot.liveOwner? alive).map (·, slot.value)

theorem listed_of_visible {slots others : List (Slot K V)}
    (h : visible alive slots = visible alive others) :
    listed alive slots = listed alive others := by
  rw [listed, listed, listed_visible, listed_visible, h]

/-- The entries that are listed under each hash, in the order of the buckets. -/
def listing (alive : K → Bool) (cache : Cache H K V) : List (H × List (K × V)) :=
  (cache.buckets.map fun bucket => (bucket.hash, listed alive bucket.slots)).filter (·.2 ≠ [])

theorem entries_eq_listing (alive : K → Bool) (cache : Cache H K V) :
    cache.entries alive = (cache.listing alive).flatMap (·.2) := by
  simp only [entries, slots, listing]
  induction cache.buckets with
  | nil => rfl
  | cons bucket others ih =>
    rw [List.flatMap_cons, List.filterMap_append, ih, List.map_cons]
    by_cases hnone : listed alive bucket.slots = []
    · rw [List.filter_cons_of_neg (by simpa using hnone)]
      rw [listed] at hnone
      rw [hnone, List.nil_append]
    · rw [List.filter_cons_of_pos (by simpa using hnone), List.flatMap_cons]
      rfl

theorem nodup_listing (h : cache.WellFormed) (alive : K → Bool) :
    ((cache.listing alive).map (·.1)).Nodup := by
  refine List.Nodup.sublist (List.filter_sublist.map _) ?_
  rw [List.map_map]
  exact h.tidy.hashes

variable [DecidableEq H]

theorem mem_listing (h : cache.WellFormed) {hash : H} {entries : List (K × V)} :
    (hash, entries) ∈ cache.listing alive ↔
      entries = listed alive (cache.shelf hash) ∧ entries ≠ [] := by
  simp only [listing, List.mem_filter, List.mem_map, Prod.mk.injEq, decide_eq_true_eq]
  constructor
  · rintro ⟨⟨⟨_, slots⟩, hbucket, rfl, rfl⟩, hsome⟩
    exact ⟨congrArg _ (Bucket.mem_iff_slotsAt h.tidy |>.mp hbucket).1, hsome⟩
  · rintro ⟨rfl, hsome⟩
    have hslots : cache.shelf hash ≠ [] := fun hnone => hsome (by rw [hnone]; rfl)
    exact ⟨⟨⟨hash, _⟩, (Bucket.mem_iff_slotsAt h.tidy).mpr ⟨rfl, hslots⟩, rfl, rfl⟩, hsome⟩

/-- Caches that show the same list the same, up to the order of the buckets. -/
theorem listing_perm {other : Cache H K V} (h : cache.WellFormed) (ho : other.WellFormed)
    (hshown : cache.display alive = other.display alive) :
    (cache.listing alive).Perm (other.listing alive) := by
  refine (List.perm_ext_iff_of_nodup (List.Nodup.of_map _ (nodup_listing h alive))
    (List.Nodup.of_map _ (nodup_listing ho alive))).mpr fun ⟨hash, entries⟩ => ?_
  rw [mem_listing h, mem_listing ho, listed_of_visible (congrFun hshown hash)]

/-- A cache is as large as the list of its entries. -/
theorem size_eq_length_entries (h : cache.WellFormed) (alive : K → Bool) :
    (cache.size alive).answer = (cache.entries alive).length := by
  have hkept : (cache.sweep alive).cache.slots = cache.slots.filter (·.isLive alive) :=
    Bucket.flatMap_surviving alive cache.buckets
  calc (cache.sweep alive).cache.stored
    _ = (cache.sweep alive).cache.slots.length := (tidied_sweep h alive).wellFormed.stored_eq
    _ = cache.slots.countP (·.isLive alive) := by rw [hkept, List.countP_eq_length_filter]
    _ = (cache.entries alive).length := by
      rw [entries, List.length_filterMap_eq_countP]
      refine List.countP_congr fun slot _ => ?_
      rw [Option.isSome_map, Slot.liveOwner?, List.find?_isSome, Slot.isLive_iff]

end Listing

end Cache

end PluginHost
