import PluginHost.Proofs.Cache.Operations

/-!
# A property of all owners

A property that the owners of every slot have, and that may depend on the hash that leads to the
slot, is kept by every operation, provided that a new slot has it and that a slot keeps it when a
key joins its owners.
-/
namespace PluginHost.Cache

variable {H K V : Type}

/-- The owners of every slot have a property that may depend on the hash that leads to the slot. -/
def Shelved [DecidableEq H] (P : H → List K → Prop) (cache : Cache H K V) : Prop :=
  ∀ hash, ∀ slot ∈ cache.shelf hash, P hash slot.owners

namespace Shelved

variable [DecidableEq H] {P : H → List K → Prop} {alive : K → Bool} {cache : Cache H K V}

theorem empty : Shelved P ({} : Cache H K V) := fun _ _ hslot => by cases hslot

theorem tidied {after : Cache H K V} {released : List (Slot K V)} (h : cache.Shelved P)
    (ht : Tidied alive cache after released) : after.Shelved P :=
  fun hash slot hslot => h hash slot ((ht.sublist hash).subset hslot)

theorem mono {Q : H → List K → Prop} (h : cache.Shelved P)
    (himp : ∀ hash owners, P hash owners → Q hash owners) : cache.Shelved Q :=
  fun hash slot hslot => himp hash slot.owners (h hash slot hslot)

theorem write {hash : H} {slots : List (Slot K V)} {stored : Nat} (h : cache.Shelved P)
    (hw : cache.WellFormed) (hslots : ∀ slot ∈ slots, P hash slot.owners) :
    Shelved P { cache.setBucket hash slots with stored := stored } := by
  intro other slot hslot
  by_cases hsame : other = hash
  · subst hsame
    have hself : slot ∈ (cache.setBucket other slots).shelf other := hslot
    rw [shelf_setBucket_self hw] at hself
    exact hslots slot hself
  · have hother : slot ∈ (cache.setBucket hash slots).shelf other := hslot
    rw [shelf_setBucket_ne hsame] at hother
    exact h other slot hother

theorem push {hash : H} {slot : Slot K V} (h : cache.Shelved P) (hw : cache.WellFormed)
    (hslot : P hash slot.owners) : (cache.push hash slot).Shelved P := by
  refine h.write hw fun other hother => ?_
  rcases List.mem_append.mp hother with hother | hother
  · exact h hash other hother
  · rw [List.mem_singleton.mp hother]
    exact hslot

/-- A slot takes the place of one that was found. -/
theorem replace {strategy : KeyStrategy H K} {probe : K} {hash : H}
    {front behind : List (Slot K V)} {slot : Slot K V} (h : cache.Shelved P)
    (hw : cache.WellFormed)
    (hits : Hits strategy alive probe (cache.shelf hash) front slot behind) {other : Slot K V}
    (hother : P hash slot.owners → P hash other.owners) :
    (cache.setBucket hash (front ++ other :: behind)).Shelved P := by
  have hshelf := h hash
  rw [hits.split] at hshelf
  refine h.write hw fun stored hstored => ?_
  rcases List.mem_append.mp hstored with hfront | hstored
  · exact hshelf stored (List.mem_append_left _ hfront)
  · rcases List.mem_cons.mp hstored with rfl | hbehind
    · exact hother (hshelf slot (by simp))
    · exact hshelf stored (by simp [hbehind])

/-- A slot that was found is taken out. -/
theorem withdraw {strategy : KeyStrategy H K} {probe : K} {hash : H}
    {front behind left : List (Slot K V)} {slot : Slot K V} {stored : Nat} (h : cache.Shelved P)
    (hw : cache.WellFormed)
    (hits : Hits strategy alive probe (cache.shelf hash) front slot behind)
    (hleft : left.Perm (front ++ behind)) :
    Shelved P { cache.setBucket hash left with stored := stored } := by
  refine h.write hw fun other hother => h hash other ?_
  rw [hits.split]
  rcases List.mem_append.mp (hleft.mem_iff.mp hother) with hfront | hbehind
  · exact List.mem_append_left _ hfront
  · exact List.mem_append_right _ (List.mem_cons_of_mem _ hbehind)

section Operations

variable {config : CacheConfig H K}

theorem remove (h : cache.Shelved P) (hw : cache.WellFormed) (probe : K) :
    (cache.remove config alive probe).cache.Shelved P := by
  obtain ⟨middle, hready, ⟨-, -, hcache⟩ | ⟨front, slot, behind, left, hhits, hleft, -, hcache⟩⟩ :=
    remove_cases config alive hw probe
  · rw [hcache]
    exact h.tidied hready.toTidied
  · rw [hcache]
    exact (h.tidied hready.toTidied).withdraw hready.wellFormed hhits hleft

variable [DecidableEq K]

theorem put (h : cache.Shelved P) (hw : cache.WellFormed) {key : K} (value : V)
    (hnew : P (config.strategy.hash key) [key])
    (hjoin : ∀ slot : Slot K V, P (config.strategy.hash key) slot.owners →
      P (config.strategy.hash key) (slot.addOwner alive key).owners) :
    (cache.put config alive key value).cache.Shelved P := by
  obtain ⟨middle, hready, ⟨-, -, hcache⟩ | ⟨front, slot, behind, hhits, -, hcache⟩⟩ :=
    put_cases config alive hw key value
  · rw [hcache]
    exact (h.tidied hready.toTidied).push hready.wellFormed hnew
  · rw [hcache]
    exact (h.tidied hready.toTidied).replace hready.wellFormed hhits (hjoin slot)

theorem settle (h : cache.Shelved P) (hw : cache.WellFormed) {key : K} (made : V)
    (hnew : P (config.strategy.hash key) [key])
    (hjoin : ∀ slot : Slot K V, P (config.strategy.hash key) slot.owners →
      P (config.strategy.hash key) (slot.addOwner alive key).owners) :
    (cache.settle config alive key made).cache.Shelved P := by
  obtain ⟨middle, hready, ⟨-, -, -, hcache⟩ | ⟨front, slot, behind, hhits, -, -, hcache⟩⟩ :=
    settle_cases config alive hw key made
  · rw [hcache]
    exact (h.tidied hready.toTidied).push hready.wellFormed hnew
  · rw [hcache]
    exact (h.tidied hready.toTidied).replace hready.wellFormed hhits (hjoin slot)

end Operations

end Shelved

end PluginHost.Cache
