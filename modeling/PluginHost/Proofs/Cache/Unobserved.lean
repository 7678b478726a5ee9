import PluginHost.Cache.KeyObject
import PluginHost.Proofs.Cache.Display
import PluginHost.Proofs.Cache.Lifetime

/-!
# When dead slots are dropped is not observed

Sweeps come at different moments in caches with different floors, and in caches that are looked at
more or less often. Two such caches show the same as long as they are told the same. The strategy
may be any at all: whatever is dropped was not shown, and what is shown keeps its order.
-/
namespace PluginHost.Cache

variable {H K V : Type}

/-! ## Looks -/

/-- Calls that store nothing and take nothing out. -/
def Call.isLook : Call K V → Bool
  | .get _ | .contains _ | .size | .isEmpty | .purge | .entries => true
  | .put .. | .putWeak .. | .remove _ | .clear => false

/-- What can happen while a memoized call makes its value: the cache is looked at, and keys are made
and die, but not the one that was passed in, which the caller holds. -/
def Move.isIdle [DecidableEq K] (key : K) : Move K V → Bool
  | .key event => event ≠ .death key
  | .call asked => asked.isLook
  | .settle .. => false

/-- Events in the lives of keys. -/
def Move.isEvent : Move K V → Bool
  | .key _ => true
  | .call _ | .settle .. => false

/-- What comes to a cache from outside. -/
inductive Visit (K V : Type) where
  /-- A key is made or dies. -/
  | key (event : KeyEvent K)
  | call (call : Call K V)
  /-- A memoized call that makes this value if it has to. Of the moves, those happen meanwhile that
  are idle. -/
  | memo (key : K) (made : V) (meanwhile : List (Move K V))
deriving DecidableEq, Repr

/-- A visit without the looks in it. Nothing is left of a look. -/
def Visit.essence? : Visit K V → Option (Visit K V)
  | .key event => some (.key event)
  | .call asked => if asked.isLook then none else some (.call asked)
  | .memo held made meanwhile => some (.memo held made (meanwhile.filter Move.isEvent))

theorem Visit.essence?_essence {visit essence : Visit K V} (h : visit.essence? = some essence) :
    essence.essence? = some essence := by
  cases visit with
  | key event =>
    cases h
    rfl
  | call asked =>
    simp only [essence?] at h
    split at h
    · cases h
    · cases h
      exact if_neg ‹_›
  | memo held made meanwhile =>
    cases h
    simp [essence?, List.filter_filter]

variable [DecidableEq H] [DecidableEq K]

namespace World

variable (config : CacheConfig H K)

/-- The reply to a visit and the world after it. -/
def visit (world : World H K V) : Visit K V → Reply K V × World H K V
  | .key event => (.acknowledged, world.step config (.key event))
  | .call call => ((world.respond config (.call call)).answer, world.step config (.call call))
  | .memo key made meanwhile =>
    if world.alive key then
      let ((value, ran), after) := getOrInsert worldly config key
        (fun asked => ((made, ()), asked.run config (meanwhile.filter (Move.isIdle key)))) world
      (.memoized value ran.isSome, after)
    else (.impossible, world)

/-- The world after visits made in turn. -/
def visits (world : World H K V) (made : List (Visit K V)) : World H K V :=
  made.foldl (fun world visit => (world.visit config visit).2) world

/-- The replies to visits made in turn, but for those to looks. -/
def replies (world : World H K V) : List (Visit K V) → List (Reply K V)
  | [] => []
  | visit :: visits =>
    let (reply, after) := world.visit config visit
    if visit.essence?.isSome then reply :: replies after visits else replies after visits

end World

/-! ## Caches that show the same -/

section Caches

variable {strategy : KeyStrategy H K} (floor otherFloor : UInt64) {alive : K → Bool}
  {cache other : Cache H K V}

/-- A look leaves the display as it is. -/
theorem display_look (h : cache.WellFormed) {call : Call K V} (hlook : call.isLook = true) :
    (call.perform ⟨strategy, floor⟩ alive cache).cache.display alive = cache.display alive := by
  cases call with
  | get probe => exact (get_display ⟨strategy, floor⟩ alive h probe).2
  | contains probe => exact (contains_display ⟨strategy, floor⟩ alive h probe).2
  | size | isEmpty | purge => exact sweep_display alive h
  | entries => rfl
  | put | putWeak | remove | clear => cases hlook

/-- Every other call is answered alike where the same is shown, and shows the same again. -/
theorem perform_alike (h : cache.WellFormed) (ho : other.WellFormed)
    (hshown : cache.display alive = other.display alive) {call : Call K V}
    (hcall : call.isLook = false) :
    (call.perform ⟨strategy, floor⟩ alive cache).answer =
        (call.perform ⟨strategy, otherFloor⟩ alive other).answer ∧
      (call.perform ⟨strategy, floor⟩ alive cache).cache.display alive =
        (call.perform ⟨strategy, otherFloor⟩ alive other).cache.display alive := by
  have hput {key : K} (hkey : alive key = true) (value : V) :
      (cache.put ⟨strategy, floor⟩ alive key value).answer =
          (other.put ⟨strategy, otherFloor⟩ alive key value).answer ∧
        (cache.put ⟨strategy, floor⟩ alive key value).cache.display alive =
          (other.put ⟨strategy, otherFloor⟩ alive key value).cache.display alive := by
    obtain ⟨hanswer, hafter⟩ := put_display ⟨strategy, floor⟩ alive h hkey value
    obtain ⟨hanswer', hafter'⟩ := put_display ⟨strategy, otherFloor⟩ alive ho hkey value
    rw [hanswer, hafter, hanswer', hafter', hshown]
    exact ⟨rfl, rfl⟩
  cases call with
  | put key value =>
    simp only [Call.perform]
    split
    · obtain ⟨hanswer, hafter⟩ := hput ‹_› value
      exact ⟨congrArg Reply.previous hanswer, hafter⟩
    · exact ⟨rfl, hshown⟩
  | putWeak key? value =>
    cases hkey : key?.filter alive with
    | none =>
      simp only [Call.perform, putWeak, hkey]
      exact ⟨rfl, hshown⟩
    | some key =>
      obtain ⟨hanswer, hafter⟩ := hput (Option.filter_eq_some_iff.mp hkey).2 value
      simp only [Call.perform, putWeak, hkey]
      exact ⟨congrArg Reply.previous hanswer, hafter⟩
  | remove probe =>
    obtain ⟨hanswer, hafter⟩ := remove_display ⟨strategy, floor⟩ alive h probe
    obtain ⟨hanswer', hafter'⟩ := remove_display ⟨strategy, otherFloor⟩ alive ho probe
    rw [hshown, ← hanswer'] at hanswer
    exact ⟨congrArg Reply.previous hanswer, by
      simp only [Call.perform, Outcome.map]
      rw [hafter, hafter', hshown]⟩
  | clear => exact ⟨rfl, rfl⟩
  | get | contains | size | isEmpty | purge | entries => cases hcall

end Caches

/-! ## Worlds that show the same -/

/-- Two sound worlds with the same fates of keys, whose caches show the same. -/
structure Alike (strategy : KeyStrategy H K) (floor otherFloor : UInt64)
    (world other : World H K V) : Prop where
  sound : world.Sound ⟨strategy, floor⟩
  sound_other : other.Sound ⟨strategy, otherFloor⟩
  fates : world.fates = other.fates
  display : world.cache.display world.alive = other.cache.display other.alive

namespace Alike

variable {strategy : KeyStrategy H K} {floor otherFloor thirdFloor : UInt64}
  {world other third : World H K V}

omit [DecidableEq K] in
theorem start : Alike strategy floor otherFloor ({} : World H K V) {} :=
  ⟨.start, .start, rfl, rfl⟩

omit [DecidableEq K] in
theorem symm (h : Alike strategy floor otherFloor world other) :
    Alike strategy otherFloor floor other world :=
  ⟨h.sound_other, h.sound, h.fates.symm, h.display.symm⟩

omit [DecidableEq K] in
theorem trans (h : Alike strategy floor otherFloor world other)
    (h' : Alike strategy otherFloor thirdFloor other third) :
    Alike strategy floor thirdFloor world third :=
  ⟨h.sound, h'.sound_other, h.fates.trans h'.fates, h.display.trans h'.display⟩

omit [DecidableEq K] in
theorem alive (h : Alike strategy floor otherFloor world other) : world.alive = other.alive :=
  congrArg Fates.alive h.fates

/-- What an event changes in the display can be told from the display. -/
theorem key (h : Alike strategy floor otherFloor world other) (event : KeyEvent K) :
    Alike strategy floor otherFloor (world.step ⟨strategy, floor⟩ (.key event))
      (other.step ⟨strategy, otherFloor⟩ (.key event)) := by
  -- owners were made before, so the event gives life to none of them
  have hlater {floor : UInt64} {world : World H K V} (hsound : world.Sound ⟨strategy, floor⟩)
      (hash : H) : visible (world.fates.after event).alive (world.cache.display world.alive hash) =
        visible (world.fates.after event).alive (world.cache.shelf hash) := by
    refine visible_later fun slot hslot owner howner halive => ?_
    have hmem : slot ∈ world.cache.slots := hsound.wellFormed.mem_slots_iff.mpr ⟨hash, hslot⟩
    exact Fates.alive_of_alive_after (hsound.known slot hmem owner howner) halive
  refine ⟨h.sound.step _, h.sound_other.step _, congrArg (Fates.after · event) h.fates, ?_⟩
  funext hash
  have hshown := congrFun h.display hash
  calc visible (world.fates.after event).alive (world.cache.shelf hash)
    _ = visible (world.fates.after event).alive (other.cache.display other.alive hash) := by
      rw [← hlater h.sound, hshown]
    _ = visible (other.fates.after event).alive (other.cache.shelf hash) := by
      rw [h.fates, hlater h.sound_other]

/-- A look on one side is not seen on the other. -/
theorem look (h : Alike strategy floor otherFloor world other) {call : Call K V}
    (hlook : call.isLook = true) :
    Alike strategy floor otherFloor (world.step ⟨strategy, floor⟩ (.call call)) other :=
  ⟨h.sound.step _, h.sound_other, h.fates,
    (display_look floor h.sound.wellFormed hlook).trans h.display⟩

theorem call (h : Alike strategy floor otherFloor world other) {call : Call K V}
    (hcall : call.isLook = false) :
    (world.respond ⟨strategy, floor⟩ (.call call)).answer =
        (other.respond ⟨strategy, otherFloor⟩ (.call call)).answer ∧
      Alike strategy floor otherFloor (world.step ⟨strategy, floor⟩ (.call call))
        (other.step ⟨strategy, otherFloor⟩ (.call call)) := by
  have hshown : world.cache.display world.alive = other.cache.display world.alive :=
    h.display.trans (by rw [h.alive])
  obtain ⟨hanswer, hafter⟩ := perform_alike floor otherFloor h.sound.wellFormed
    h.sound_other.wellFormed hshown hcall
  have hsame : other.respond ⟨strategy, otherFloor⟩ (.call call) =
      call.perform ⟨strategy, otherFloor⟩ world.alive other.cache := by rw [h.alive]; rfl
  refine ⟨by rw [hsame]; exact hanswer, h.sound.step _, h.sound_other.step _, h.fates, ?_⟩
  refine hafter.trans ?_
  rw [← hsame, h.alive]
  rfl

theorem settle (h : Alike strategy floor otherFloor world other) {key : K}
    (hliving : world.alive key = true) (made : V) :
    (world.cache.settle ⟨strategy, floor⟩ world.alive key made).answer =
        (other.cache.settle ⟨strategy, otherFloor⟩ other.alive key made).answer ∧
      Alike strategy floor otherFloor (world.step ⟨strategy, floor⟩ (.settle key made))
        (other.step ⟨strategy, otherFloor⟩ (.settle key made)) := by
  have hliving' : other.alive key = true := h.alive ▸ hliving
  obtain ⟨hanswer, hafter⟩ :=
    settle_display ⟨strategy, floor⟩ world.alive h.sound.wellFormed hliving made
  obtain ⟨hanswer', hafter'⟩ :=
    settle_display ⟨strategy, otherFloor⟩ other.alive h.sound_other.wellFormed hliving' made
  refine ⟨by rw [hanswer, hanswer', h.display, h.alive], h.sound.step _, h.sound_other.step _,
    h.fates, ?_⟩
  rw [World.step_settle hliving, World.step_settle hliving']
  refine hafter.trans (Eq.trans ?_ hafter'.symm)
  rw [h.display, h.alive]

/-- Idle moves on one side, and only the events among them on the other. -/
theorem idle (h : Alike strategy floor otherFloor world other) (key : K)
    (moves : List (Move K V)) :
    Alike strategy floor otherFloor
      (world.run ⟨strategy, floor⟩ (moves.filter (Move.isIdle key)))
      (other.run ⟨strategy, otherFloor⟩
        ((moves.filter Move.isEvent).filter (Move.isIdle key))) := by
  induction moves generalizing world other with
  | nil => exact h
  | cons move moves ih =>
    cases move with
    | key event =>
      simp only [List.filter_cons, Move.isEvent, if_true]
      split
      · exact ih (h.key event)
      · exact ih h
    | call call =>
      simp only [List.filter_cons, Move.isEvent, Bool.false_eq_true, if_false]
      split
      · exact ih (h.look ‹_›)
      · exact ih h
    | settle other made => exact ih h

omit [DecidableEq K] in
theorem get (h : Alike strategy floor otherFloor world other) (probe : K) :
    (world.cache.get ⟨strategy, floor⟩ world.alive probe).answer =
      (other.cache.get ⟨strategy, otherFloor⟩ other.alive probe).answer := by
  rw [(get_display ⟨strategy, floor⟩ world.alive h.sound.wellFormed probe).1,
    (get_display ⟨strategy, otherFloor⟩ other.alive h.sound_other.wellFormed probe).1, h.display,
    h.alive]

/-- A key is still held when a value was made for it. -/
theorem held {config : CacheConfig H K} {key : K} (h : world.alive key = true)
    (meanwhile : List (Move K V)) :
    ((world.step config (.call (.get key))).run config
      (meanwhile.filter (Move.isIdle key))).alive key = true :=
  World.alive_run (World.alive_step h nofun) fun hmem => by
    simpa [Move.isIdle] using (List.mem_filter.mp hmem).2

/-- Both memoized calls find the same value, or neither finds one. -/
theorem memo (h : Alike strategy floor otherFloor world other) (key : K) (made : V)
    (meanwhile : List (Move K V)) :
    (world.visit ⟨strategy, floor⟩ (.memo key made meanwhile)).1 =
        (other.visit ⟨strategy, otherFloor⟩
          (.memo key made (meanwhile.filter Move.isEvent))).1 ∧
      Alike strategy floor otherFloor
        (world.visit ⟨strategy, floor⟩ (.memo key made meanwhile)).2
        (other.visit ⟨strategy, otherFloor⟩
          (.memo key made (meanwhile.filter Move.isEvent))).2 := by
  by_cases hliving : world.alive key = true
  · have hliving' : other.alive key = true := h.alive ▸ hliving
    have hget := h.get key
    have hasked : Alike strategy floor otherFloor
        (world.step ⟨strategy, floor⟩ (.call (.get key)))
        (other.step ⟨strategy, otherFloor⟩ (.call (.get key))) :=
      ((h.look rfl).symm.look rfl).symm
    cases hfound : (world.cache.get ⟨strategy, floor⟩ world.alive key).answer with
    | some value =>
      simp only [World.visit, hliving, hliving', if_true]
      rw [getOrInsert_of_some _ _ hfound, getOrInsert_of_some _ _ (hget.symm.trans hfound)]
      exact ⟨rfl, hasked⟩
    | none =>
      obtain ⟨hsettled, hafter⟩ := (hasked.idle key meanwhile).settle (held hliving meanwhile) made
      simp only [World.visit, hliving, hliving', if_true]
      rw [getOrInsert_of_none _ _ hfound (held hliving _),
        getOrInsert_of_none _ _ (hget.symm.trans hfound) (held hliving' _)]
      exact ⟨congrArg (Reply.memoized · true) hsettled, hafter⟩
  · have hliving' : ¬other.alive key = true := h.alive ▸ hliving
    simp only [World.visit, hliving, hliving']
    exact ⟨rfl, h⟩

/-- A visit on one side, and what is left of it without looks on the other. -/
theorem visit (h : Alike strategy floor otherFloor world other) {visit essence : Visit K V}
    (hvisit : visit.essence? = some essence) :
    (world.visit ⟨strategy, floor⟩ visit).1 = (other.visit ⟨strategy, otherFloor⟩ essence).1 ∧
      Alike strategy floor otherFloor (world.visit ⟨strategy, floor⟩ visit).2
        (other.visit ⟨strategy, otherFloor⟩ essence).2 := by
  cases visit with
  | key event =>
    cases hvisit
    exact ⟨rfl, h.key event⟩
  | call call =>
    rw [Visit.essence?] at hvisit
    split at hvisit
    · cases hvisit
    · cases hvisit
      exact h.call (Bool.not_eq_true _ ▸ ‹_›)
  | memo key made meanwhile =>
    cases hvisit
    exact h.memo key made meanwhile

theorem visit_look (h : Alike strategy floor otherFloor world other) {visit : Visit K V}
    (hvisit : visit.essence? = none) :
    Alike strategy floor otherFloor (world.visit ⟨strategy, floor⟩ visit).2 other := by
  cases visit with
  | key | memo => cases hvisit
  | call call =>
    rw [Visit.essence?] at hvisit
    split at hvisit
    · exact h.look ‹_›
    · cases hvisit

/-- A run of visits goes as it would without looks. -/
theorem visits (h : Alike strategy floor otherFloor world other) (visits : List (Visit K V)) :
    world.replies ⟨strategy, floor⟩ visits =
        other.replies ⟨strategy, otherFloor⟩ (visits.filterMap Visit.essence?) ∧
      Alike strategy floor otherFloor (world.visits ⟨strategy, floor⟩ visits)
        (other.visits ⟨strategy, otherFloor⟩ (visits.filterMap Visit.essence?)) := by
  induction visits generalizing world other with
  | nil => exact ⟨rfl, h⟩
  | cons visit visits ih =>
    cases hvisit : visit.essence? with
    | none =>
      obtain ⟨hreplies, hafter⟩ := ih (h.visit_look hvisit)
      rw [List.filterMap_cons_none hvisit, World.replies, hvisit]
      exact ⟨hreplies, hafter⟩
    | some essence =>
      obtain ⟨hreply, hnext⟩ := h.visit hvisit
      obtain ⟨hreplies, hafter⟩ := ih hnext
      simp only [List.filterMap_cons_some hvisit, World.replies, hvisit,
        Visit.essence?_essence hvisit, Option.isSome_some, if_true]
      exact ⟨by rw [hreply, hreplies], hafter⟩

/-- Two runs that are the same without looks go alike. -/
theorem told (h : Alike strategy floor otherFloor world other) {visits others : List (Visit K V)}
    (htold : visits.filterMap Visit.essence? = others.filterMap Visit.essence?) :
    world.replies ⟨strategy, floor⟩ visits = other.replies ⟨strategy, otherFloor⟩ others ∧
      Alike strategy floor otherFloor (world.visits ⟨strategy, floor⟩ visits)
        (other.visits ⟨strategy, otherFloor⟩ others) := by
  obtain ⟨hreplies, hafter⟩ := h.visits visits
  obtain ⟨hreplies', hafter'⟩ := (h.symm.trans h).visits others
  rw [htold] at hreplies hafter
  exact ⟨hreplies.trans hreplies'.symm, hafter.trans hafter'.symm⟩

omit [DecidableEq K] in
theorem contains (h : Alike strategy floor otherFloor world other) (probe : K) :
    (world.cache.contains ⟨strategy, floor⟩ world.alive probe).answer =
      (other.cache.contains ⟨strategy, otherFloor⟩ other.alive probe).answer := by
  rw [(contains_display ⟨strategy, floor⟩ world.alive h.sound.wellFormed probe).1,
    (contains_display ⟨strategy, otherFloor⟩ other.alive h.sound_other.wellFormed probe).1,
    h.display, h.alive]

omit [DecidableEq K] in
theorem listing (h : Alike strategy floor otherFloor world other) :
    (world.cache.listing world.alive).Perm (other.cache.listing other.alive) := by
  have hshown := h.display
  rw [← h.alive] at hshown ⊢
  exact listing_perm h.sound.wellFormed h.sound_other.wellFormed hshown

omit [DecidableEq K] in
theorem size (h : Alike strategy floor otherFloor world other) :
    (world.cache.size world.alive).answer = (other.cache.size other.alive).answer := by
  rw [size_eq_length_entries h.sound.wellFormed, size_eq_length_entries h.sound_other.wellFormed,
    entries_eq_listing, entries_eq_listing]
  exact (h.listing.flatMap_right _).length_eq

end Alike

/-- Two caches that are told the same answer the same and show the same, whatever their floors are
and however often each is looked at in between. A memoized call that is about to make its value is
at the end of such a run, too: so far it was a look. -/
theorem sweeps_unobserved (strategy : KeyStrategy H K) (floor otherFloor : UInt64)
    {visits others : List (Visit K V)}
    (htold : visits.filterMap Visit.essence? = others.filterMap Visit.essence?) :
    let config : CacheConfig H K := ⟨strategy, floor⟩
    let otherConfig : CacheConfig H K := ⟨strategy, otherFloor⟩
    let here := ({} : World H K V).visits config visits
    let there := ({} : World H K V).visits otherConfig others
    ({} : World H K V).replies config visits = ({} : World H K V).replies otherConfig others ∧
      here.fates = there.fates ∧
      (∀ probe, (here.cache.get config here.alive probe).answer =
        (there.cache.get otherConfig there.alive probe).answer) ∧
      (∀ probe, (here.cache.contains config here.alive probe).answer =
        (there.cache.contains otherConfig there.alive probe).answer) ∧
      (here.cache.size here.alive).answer = (there.cache.size there.alive).answer ∧
      (here.cache.isEmpty here.alive).answer = (there.cache.isEmpty there.alive).answer ∧
      here.cache.entries here.alive = (here.cache.listing here.alive).flatMap (·.2) ∧
      there.cache.entries there.alive = (there.cache.listing there.alive).flatMap (·.2) ∧
      (here.cache.listing here.alive).Perm (there.cache.listing there.alive) := by
  intro config otherConfig here there
  have hstart : Alike strategy floor otherFloor ({} : World H K V) {} := .start
  obtain ⟨hreplies, halike⟩ := hstart.told htold
  exact ⟨hreplies, halike.fates, halike.get, halike.contains, halike.size,
    congrArg (· == 0) halike.size, entries_eq_listing .., entries_eq_listing .., halike.listing⟩

/-- Keys of which a probe names every one that starts with it, so that their order decides. All are
in one bucket, and three of them die. -/
def plainVisits : List (Visit KeyObject Nat) :=
  [.key (.birth ⟨0, "ab"⟩), .key (.birth ⟨1, "abc"⟩), .key (.birth ⟨2, "b"⟩),
    .key (.birth ⟨3, "a"⟩), .call (.put ⟨0, "ab"⟩ 10), .call (.put ⟨2, "b"⟩ 20),
    .call (.put ⟨1, "abc"⟩ 11), .memo ⟨3, "a"⟩ 30 [], .key (.death ⟨0, "ab"⟩),
    .key (.death ⟨3, "a"⟩), .call (.remove ⟨3, "a"⟩), .memo ⟨1, "abc"⟩ 31 [.key (.death ⟨2, "b"⟩)],
    .key (.death ⟨1, "abc"⟩)]

/-- The same with looks in between. -/
def watchedVisits : List (Visit KeyObject Nat) :=
  [.key (.birth ⟨0, "ab"⟩), .key (.birth ⟨1, "abc"⟩), .key (.birth ⟨2, "b"⟩), .call .size,
    .key (.birth ⟨3, "a"⟩), .call (.put ⟨0, "ab"⟩ 10), .call (.put ⟨2, "b"⟩ 20), .call .entries,
    .call (.put ⟨1, "abc"⟩ 11), .memo ⟨3, "a"⟩ 30 [.call .purge], .key (.death ⟨0, "ab"⟩),
    .call (.get ⟨2, "b"⟩), .key (.death ⟨3, "a"⟩), .call .purge, .call (.remove ⟨3, "a"⟩),
    .memo ⟨1, "abc"⟩ 31 [.call (.contains ⟨2, "b"⟩), .key (.death ⟨2, "b"⟩), .call .isEmpty],
    .key (.death ⟨1, "abc"⟩), .call .purge]

theorem sweeps_unobserved_watched :
    let strategy := KeyMatching.startsWith.strategy
    let plain := ({} : World KeyDigest KeyObject Nat).visits ⟨strategy, 64⟩ plainVisits
    let watched := ({} : World KeyDigest KeyObject Nat).visits ⟨strategy, 1⟩ watchedVisits
    plainVisits.filterMap Visit.essence? = watchedVisits.filterMap Visit.essence? ∧
      plain.cache.stored = 1 ∧ watched.cache.stored = 0 ∧
      ({} : World KeyDigest KeyObject Nat).replies ⟨strategy, 64⟩ plainVisits =
        [.acknowledged, .acknowledged, .acknowledged, .acknowledged, .previous none, .previous none,
          .previous none, .memoized 10 false, .acknowledged, .acknowledged, .previous (some 11),
          .memoized 31 true, .acknowledged] ∧
      ({} : World KeyDigest KeyObject Nat).replies ⟨strategy, 64⟩ plainVisits =
        ({} : World KeyDigest KeyObject Nat).replies ⟨strategy, 1⟩ watchedVisits ∧
      (plain.cache.size plain.alive).answer = (watched.cache.size watched.alive).answer :=
  have htold : plainVisits.filterMap Visit.essence? = watchedVisits.filterMap Visit.essence? := by
    decide
  have hunobserved := sweeps_unobserved KeyMatching.startsWith.strategy 64 1 htold
  ⟨htold, by decide, by decide, by decide, hunobserved.1, hunobserved.2.2.2.2.1⟩

end PluginHost.Cache
