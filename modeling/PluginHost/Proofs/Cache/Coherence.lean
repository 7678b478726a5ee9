import Mathlib.Data.List.Pairwise
import PluginHost.Cache.KeyObject
import PluginHost.Proofs.Cache.World

/-!
# One slot for equal keys

A strategy is consistent if its equality is an equivalence and equal keys have the same hash. Then
all owners of a slot are equal, and no two live slots have equal owners. So at most one live slot
belongs to a key, and a lookup finds it wherever it is.
-/
namespace PluginHost

variable {H K V : Type}

/-- Equality is an equivalence, and equal keys have the same hash. -/
structure KeyStrategy.Consistent (strategy : KeyStrategy H K) : Prop where
  refl : ∀ key, strategy.equal key key = true
  symm : ∀ {first second}, strategy.equal first second = true →
    strategy.equal second first = true
  trans : ∀ {first second third}, strategy.equal first second = true →
    strategy.equal second third = true → strategy.equal first third = true
  hash_eq : ∀ {first second}, strategy.equal first second = true →
    strategy.hash first = strategy.hash second

/-- Matching by an image of the key that the hash is taken from is consistent. -/
theorem KeyStrategy.Consistent.of_image {I : Type} [BEq I] [LawfulBEq I] (image : K → I)
    (digest : I → H) :
    Consistent ⟨digest ∘ image, fun stored probe => image stored == image probe⟩ where
  refl key := beq_self_eq_true (image key)
  symm h := beq_iff_eq.mpr (beq_iff_eq.mp h).symm
  trans h h' := beq_iff_eq.mpr ((beq_iff_eq.mp h).trans (beq_iff_eq.mp h'))
  hash_eq h := congrArg digest (beq_iff_eq.mp h)

/-- Of the named ways to match keys two are not consistent: a text starts with more texts than
itself, and where nothing matches a key does not match itself. -/
theorem KeyMatching.consistent {matching : KeyMatching} (hstarts : matching ≠ .startsWith)
    (hnever : matching ≠ .never) : matching.strategy.Consistent := by
  cases matching with
  | natural => exact .of_image KeyObject.text KeyDigest.text
  | identity => exact .of_image id fun key : KeyObject => KeyDigest.object key.serial
  | caseInsensitive =>
    exact .of_image (fun key : KeyObject => key.text.map Char.toLower) KeyDigest.text
  | constantHash => exact .of_image KeyObject.text fun _ => KeyDigest.constant
  | lengthHash => exact .of_image KeyObject.text fun text => KeyDigest.length text.utf8ByteSize
  | startsWith => exact absurd rfl hstarts
  | never => exact absurd rfl hnever
  | always => exact .of_image (fun _ => ()) fun _ => KeyDigest.constant

namespace Cache

/-- No owner of one slot equals an owner of the other. -/
def Apart (strategy : KeyStrategy H K) (first second : Slot K V) : Prop :=
  ∀ x ∈ first.owners, ∀ y ∈ second.owners, strategy.equal x y = false

theorem Apart.symm {strategy : KeyStrategy H K} (hc : strategy.Consistent)
    {first second : Slot K V} (h : Apart strategy first second) :
    Apart strategy second first := by
  intro x hx y hy
  by_contra hequal
  rw [Bool.not_eq_false] at hequal
  exact absurd (hc.symm hequal) (by simp [h y hy x hx])

/-- Owners of a slot are equal, and live slots have no equal owners. -/
structure Coherent (strategy : KeyStrategy H K) (alive : K → Bool) (cache : Cache H K V) :
    Prop where
  alike : ∀ slot ∈ cache.slots, ∀ x ∈ slot.owners, ∀ y ∈ slot.owners,
    strategy.equal x y = true
  apart : (cache.slots.filter (·.isLive alive)).Pairwise (Apart strategy)

/-- The slot is live and has an owner equal to the key. -/
structure Holds (strategy : KeyStrategy H K) (alive : K → Bool) (cache : Cache H K V) (key : K)
    (slot : Slot K V) : Prop where
  mem : slot ∈ cache.slots
  live : slot.isLive alive = true
  equal : ∃ owner ∈ slot.owners, strategy.equal owner key = true

theorem Coherent.empty {strategy : KeyStrategy H K} {alive : K → Bool} :
    Coherent strategy alive ({} : Cache H K V) :=
  ⟨fun _ hslot => by (cases hslot), List.Pairwise.nil⟩

section Coherent

variable {strategy : KeyStrategy H K} {alive : K → Bool} {key : K} {cache : Cache H K V}
  {slot other : Slot K V}

/-- A living key owns what belongs to it. -/
theorem Holds.of_owner (hc : strategy.Consistent) (living : alive key = true)
    (hslot : slot ∈ cache.slots) (howner : key ∈ slot.owners) :
    Holds strategy alive cache key slot :=
  ⟨hslot, Slot.isLive_iff.mpr ⟨key, howner, living⟩, key, howner, hc.refl key⟩

/-- Two slots of one key are the same. -/
theorem Coherent.unique (hc : strategy.Consistent) (h : Coherent strategy alive cache)
    (hfirst : Holds strategy alive cache key slot)
    (hsecond : Holds strategy alive cache key other) : slot = other := by
  by_contra hne
  obtain ⟨x, hx, hxkey⟩ := hfirst.equal
  obtain ⟨y, hy, hykey⟩ := hsecond.equal
  have : Std.Symm (Apart (V := V) strategy) := ⟨fun _ _ h => h.symm hc⟩
  have hapart := h.apart.forall (List.mem_filter.mpr ⟨hfirst.mem, hfirst.live⟩)
    (List.mem_filter.mpr ⟨hsecond.mem, hsecond.live⟩) hne
  have hxy : strategy.equal x y = true := hc.trans hxkey (hc.symm hykey)
  rw [hapart x hx y hy] at hxy
  cases hxy

/-- The slot of a key answers to it, whichever owner is compared. -/
theorem Coherent.answers (hc : strategy.Consistent) (h : Coherent strategy alive cache)
    (hholds : Holds strategy alive cache key slot) : slot.answers strategy alive key = true := by
  -- the oldest living owner is compared, which need not be the one that equals the key
  obtain ⟨x, hx, hxkey⟩ := hholds.equal
  obtain ⟨y, hy, hyalive⟩ := Slot.isLive_iff.mp hholds.live
  have hsome : (slot.owners.find? alive).isSome := List.find?_isSome.mpr ⟨y, hy, hyalive⟩
  obtain ⟨oldest, holdest⟩ := Option.isSome_iff_exists.mp hsome
  have hequal := h.alike slot hholds.mem oldest (List.mem_of_find?_eq_some holdest) x hx
  simp [Slot.answers, Slot.liveOwner?, holdest, hc.trans hequal hxkey]

/-- Where keys only die, what is coherent stays so. -/
theorem Coherent.fewer {later : K → Bool} (h : Coherent strategy alive cache)
    (hfewer : ∀ slot ∈ cache.slots, ∀ owner ∈ slot.owners, later owner = true →
      alive owner = true) : Coherent strategy later cache := by
  refine ⟨h.alike, ?_⟩
  have hlive : ∀ slot ∈ cache.slots, slot.isLive later = true → slot.isLive alive = true := by
    intro slot hslot hlater
    obtain ⟨owner, howner, hlater⟩ := Slot.isLive_iff.mp hlater
    exact Slot.isLive_iff.mpr ⟨owner, howner, hfewer slot hslot owner howner hlater⟩
  -- no slot becomes live, so no pair of live slots is new
  rw [List.pairwise_filter]
  refine (List.pairwise_filter.mp h.apart).imp_of_mem fun hfirst hsecond hapart hlater hlater' => ?_
  exact hapart (hlive _ hfirst hlater) (hlive _ hsecond hlater')

/-- Beside the slot of a key no live slot has an owner that equals the key. -/
theorem Coherent.alone (hc : strategy.Consistent) (h : Coherent strategy alive cache)
    {rest : List (Slot K V)} (hlive : (cache.slots.filter (·.isLive alive)).Perm (slot :: rest))
    (hequal : ∃ owner ∈ slot.owners, strategy.equal owner key = true) :
    ∀ other ∈ rest, ∀ owner ∈ other.owners, strategy.equal owner key = false := by
  intro other hother owner howner
  have hpairs := (hlive.pairwise_iff fun h => h.symm hc).mp h.apart
  have hapart := (List.pairwise_cons.mp hpairs).1 other hother
  obtain ⟨x, hx, hxkey⟩ := hequal
  by_contra hkey
  rw [Bool.not_eq_false] at hkey
  have hxy := hc.trans hxkey (hc.symm hkey)
  rw [hapart x hx owner howner] at hxy
  cases hxy

end Coherent

section Lookup

variable [DecidableEq H] {strategy : KeyStrategy H K} {alive : K → Bool} {key : K}
  {cache before middle : Cache H K V} {released : List (Slot K V)} {slot : Slot K V}

theorem Coherent.tidied (hc : strategy.Consistent) (h : Coherent strategy alive before)
    (ht : Tidied alive before middle released) : Coherent strategy alive middle :=
  ⟨fun slot hslot => h.alike slot (ht.mem hslot),
    (ht.live_perm.pairwise_iff fun h => h.symm hc).mp h.apart⟩

theorem Holds.tidied_iff (ht : Tidied alive before middle released) :
    Holds strategy alive middle key slot ↔ Holds strategy alive before key slot := by
  have hmem := ht.live_perm.mem_iff (a := slot)
  simp only [List.mem_filter] at hmem
  constructor
  · exact fun h => ⟨(hmem.mpr ⟨h.mem, h.live⟩).1, h.live, h.equal⟩
  · exact fun h => ⟨(hmem.mp ⟨h.mem, h.live⟩).1, h.live, h.equal⟩

/-- The slot of a key is in the bucket that the key leads to. -/
theorem Holds.mem_shelf (hc : strategy.Consistent) (hw : cache.WellFormed)
    (hfiled : cache.Filed strategy) (h : Holds strategy alive cache key slot) :
    slot ∈ cache.shelf (strategy.hash key) := by
  obtain ⟨hash, hslot⟩ := hw.mem_slots_iff.mp h.mem
  obtain ⟨owner, howner, hequal⟩ := h.equal
  rw [← hc.hash_eq hequal, hfiled hash slot hslot owner howner]
  exact hslot

/-- What a lookup finds belongs to the key. -/
theorem Holds.of_hits {front behind : List (Slot K V)}
    (hready : Ready alive (strategy.hash key) before middle released)
    (hits : Hits strategy alive key (middle.shelf (strategy.hash key)) front slot behind) :
    Holds strategy alive before key slot := by
  obtain ⟨owner, howner, -, hequal⟩ := Slot.exists_owner_of_answers hits.answers
  exact ⟨hready.mem_of_hits hits, hready.live slot hits.mem, owner, howner, hequal⟩

/-- A lookup that finds nothing has seen every slot that could belong to the key. -/
theorem Misses.not_holds (hc : strategy.Consistent) (hfiled : before.Filed strategy)
    (h : Coherent strategy alive before)
    (hready : Ready alive (strategy.hash key) before middle released)
    (misses : Misses strategy alive key (middle.shelf (strategy.hash key))) :
    ¬Holds strategy alive before key slot := by
  intro hholds
  have hmiddle := (Holds.tidied_iff hready.toTidied).mpr hholds
  have hslot := hmiddle.mem_shelf hc hready.wellFormed (hfiled.tidied hready.toTidied)
  have hanswers := (h.tidied hc hready.toTidied).answers hc hmiddle
  rw [misses slot hslot] at hanswers
  cases hanswers

/-- A lookup finds the slot of the key. -/
theorem Holds.find? (hc : strategy.Consistent) (hfiled : before.Filed strategy)
    (h : Coherent strategy alive before)
    (hready : Ready alive (strategy.hash key) before middle released)
    (hholds : Holds strategy alive before key slot) :
    (middle.shelf (strategy.hash key)).find? (·.answers strategy alive key) = some slot := by
  rcases misses_or_hits strategy alive key (middle.shelf (strategy.hash key)) with
    hmisses | ⟨front, other, behind, hhits⟩
  · exact absurd hholds (hmisses.not_holds hc hfiled h hready)
  · rw [hhits.find?, h.unique hc hholds (.of_hits hready hhits)]

end Lookup

/-! ## Changes keep the slots apart -/

section Change

variable [DecidableEq H] [DecidableEq K] {config : CacheConfig H K} {alive : K → Bool}
  {before after : Cache H K V} {released : List (Slot K V)}

theorem Coherent.change (hc : config.strategy.Consistent) (hfiled : before.Filed config.strategy)
    (h : Coherent config.strategy alive before)
    (hchange : Change config alive before after released) :
    Coherent config.strategy alive after := by
  cases hchange with
  | tidied ht => exact h.tidied hc ht
  | emptied => exact .empty
  | @added middle _ key value hready living hmisses =>
    have hnone (slot : Slot K V) : ¬Holds config.strategy alive before key slot :=
      hmisses.not_holds hc hfiled h hready
    have hnew : (⟨[key], value⟩ : Slot K V).isLive alive = true :=
      Slot.isLive_singleton living
    have hlive := live_added (config.strategy.hash key) hready.toTidied hnew
    constructor
    · intro slot hslot x hx y hy
      rcases mem_slots_push.mp hslot with rfl | hslot
      · rw [List.mem_singleton.mp hx, List.mem_singleton.mp hy]
        exact hc.refl key
      · exact h.alike slot (hready.mem hslot) x hx y hy
    · refine (hlive.pairwise_iff fun h => h.symm hc).mpr (List.pairwise_cons.mpr ⟨?_, h.apart⟩)
      intro other hother x hx y hy
      rw [List.mem_singleton.mp hx]
      by_contra hequal
      rw [Bool.not_eq_false] at hequal
      obtain ⟨hmem, hother⟩ := List.mem_filter.mp hother
      exact hnone other ⟨hmem, hother, y, hy, hc.symm hequal⟩
  | @joined middle _ front slot behind key value hready living hhits =>
    have hslot := hready.live slot hhits.mem
    have hnew : ({ slot.addOwner alive key with value := value } : Slot K V).isLive alive = true :=
      slot.isLive_addOwner living
    obtain ⟨rest, hold, hafter⟩ := live_replaced hready.toTidied hhits hslot hnew
    have hequal := (Holds.of_hits hready hhits).equal
    have halike := h.alike slot (hready.mem_of_hits hhits)
    -- every owner of the slot equals the key, the key itself included
    have howners : ∀ x ∈ (slot.addOwner alive key).owners,
        config.strategy.equal x key = true := by
      intro x hx
      obtain ⟨y, hy, hykey⟩ := hequal
      rcases Slot.mem_addOwner.mp hx with rfl | ⟨hx, -⟩
      · exact hc.refl x
      · exact hc.trans (halike x hx y hy) hykey
    constructor
    · intro other hother x hx y hy
      obtain ⟨rest, hmiddle, hall⟩ := slots_replace hhits.split
      rcases List.mem_cons.mp ((hall _).mem_iff.mp hother) with rfl | hother
      · exact hc.trans (howners x hx) (hc.symm (howners y hy))
      · exact h.alike other (hready.mem (hmiddle.mem_iff.mpr (by simp [hother]))) x hx y hy
    · have hpairs := (hold.pairwise_iff fun h => h.symm hc).mp h.apart
      refine (hafter.pairwise_iff fun h => h.symm hc).mpr (List.pairwise_cons.mpr
        ⟨?_, (List.pairwise_cons.mp hpairs).2⟩)
      intro other hother x hx y hy
      by_contra hxy
      rw [Bool.not_eq_false] at hxy
      have hykey := hc.trans (hc.symm hxy) (howners x hx)
      rw [h.alone hc hold hequal other hother y hy] at hykey
      cases hykey
  | @withdrawn middle _ front slot behind left probe hready hhits hleft =>
    have hlive := live_withdrawn hready.toTidied hhits (hready.live slot hhits.mem) hleft
    constructor
    · intro other hother
      have hmiddle := (slots_withdraw hhits.split hleft).mem_iff.mpr (List.mem_cons_of_mem _ hother)
      exact h.alike other (hready.mem hmiddle)
    · have hpairs := (hlive.pairwise_iff fun h => h.symm hc).mp h.apart
      exact (List.pairwise_cons.mp hpairs).2

end Change

/-! ## Every world keeps the slots apart -/

namespace World

variable [DecidableEq H] [DecidableEq K] {config : CacheConfig H K} {world : World H K V}

/-- Besides, the slots are coherent. -/
structure Orderly (config : CacheConfig H K) (world : World H K V) : Prop
    extends Sound config world where
  coherent : world.cache.Coherent config.strategy world.alive

omit [DecidableEq K] in
theorem Orderly.start : Orderly config ({} : World H K V) := ⟨.start, .empty⟩

/-- An owner of a slot that is alive after a move was alive before it. -/
theorem Sound.alive_of_alive_step (h : world.Sound config) (move : Move K V) {slot : Slot K V}
    (hslot : slot ∈ world.cache.slots) {owner : K} (howner : owner ∈ slot.owners)
    (halive : (world.step config move).alive owner = true) : world.alive owner = true := by
  cases move with
  | key event => exact Fates.alive_of_alive_after (h.known slot hslot owner howner) halive
  | call call => exact halive
  | settle key made => exact halive

/-- A slot that belongs to a key after key events belonged to it before. -/
theorem Sound.holds_of_keys (h : world.Sound config) (events : List (KeyEvent K)) {key : K}
    {slot : Slot K V}
    (hholds : Holds config.strategy (world.run config (events.map .key)).alive
      (world.run config (events.map .key)).cache key slot) :
    Holds config.strategy world.alive world.cache key slot := by
  induction events generalizing world with
  | nil => exact hholds
  | cons event events ih =>
    have hnext := ih (h.step (.key event)) hholds
    obtain ⟨owner, howner, hlives⟩ := Slot.isLive_iff.mp hnext.live
    have hlived := h.alive_of_alive_step (.key event) hnext.mem howner hlives
    exact ⟨hnext.mem, Slot.isLive_iff.mpr ⟨owner, howner, hlived⟩, hnext.equal⟩

theorem Orderly.step (hc : config.strategy.Consistent) (h : world.Orderly config)
    (move : Move K V) : (world.step config move).Orderly config := by
  refine ⟨h.toSound.step move, ?_⟩
  cases move with
  | key event =>
    exact h.coherent.fewer fun slot hslot owner howner =>
      h.alive_of_alive_step (.key event) hslot howner
  | call call => exact h.coherent.change hc h.filed (change_respond h.wellFormed (.call call))
  | settle key made =>
    exact h.coherent.change hc h.filed (change_respond h.wellFormed (.settle key made))

theorem Orderly.run (hc : config.strategy.Consistent) (h : world.Orderly config)
    (moves : List (Move K V)) : (world.run config moves).Orderly config := by
  induction moves generalizing world with
  | nil => exact h
  | cons move moves ih => exact ih (h.step hc move)

end World

end Cache

end PluginHost
