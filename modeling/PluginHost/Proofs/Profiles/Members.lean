import PluginHost.Profiles.Set

/-!
# The members of a set of profiles

A set is a word, and its members are the positions of the bits that are set. What the operations on
sets mean is said here for one member at a time. So the parts of a set, the profiles of the host in
it and all others, have the members of the set between them.
-/
namespace PluginHost.ProfileSet

/-- Whether the profile at this position is a member. -/
def has (set : ProfileSet) (bit : Nat) : Bool := set.mask.toNat.testBit bit

variable {a b c : ProfileSet}

theorem ext_has (h : ∀ bit, a.has bit = b.has bit) : a = b := by
  obtain ⟨mask⟩ := a
  obtain ⟨other⟩ := b
  exact congrArg mk (UInt32.toNat_inj.mp (Nat.eq_of_testBit_eq h))

theorem eq_any_of_isEmpty (h : a.isEmpty = true) : a = any := congrArg mk (beq_iff_eq.mp h)

@[simp] theorem has_any (bit : Nat) : any.has bit = false := Nat.zero_testBit bit

@[simp] theorem has_union (a b : ProfileSet) (bit : Nat) :
    (a ∪ b).has bit = (a.has bit || b.has bit) := by
  show (a.mask ||| b.mask).toNat.testBit bit = _
  rw [UInt32.toNat_or, Nat.testBit_or]
  rfl

/-- A word has no bits but its own, so the complement has none beyond them either. -/
@[simp] theorem has_diff (a b : ProfileSet) (bit : Nat) :
    (a.diff b).has bit = (a.has bit && !b.has bit) := by
  have hcomplement : (~~~b.mask).toNat = 2 ^ 32 - (b.mask.toNat + 1) := by
    rw [UInt32.toNat_not, UInt32.size]
    omega
  have hword : a.has bit = true → bit < 32 := fun h =>
    (Nat.pow_lt_pow_iff_right (by decide)).mp
      (Nat.lt_of_le_of_lt (Nat.ge_two_pow_of_testBit h) a.mask.toNat_lt)
  show (a.mask &&& ~~~b.mask).toNat.testBit bit = _
  rw [UInt32.toNat_and, Nat.testBit_and, hcomplement, Nat.testBit_two_pow_sub_succ b.mask.toNat_lt]
  show (a.has bit && (decide (bit < 32) && !b.has bit)) = _
  cases hbit : a.has bit with
  | false => rfl
  | true => rw [decide_eq_true (hword hbit), Bool.true_and]

/-- The set of one profile has no other member. -/
theorem has_ofBit {bit : Nat} (h : bit < capacity) (other : Nat) :
    (ofBit bit).has other = decide (other = bit) := by
  have hlt : bit < 32 := h
  have hpow : 2 ^ bit < 2 ^ 32 := Nat.pow_lt_pow_right (by decide) h
  have hword : (UInt32.ofNat bit).toNat = bit := by
    rw [UInt32.toNat_ofNat', Nat.mod_eq_of_lt (Nat.lt_trans h (by decide))]
  -- neither the distance of the shift nor the shifted bit leaves the word
  have hmask : (ofBit bit).mask.toNat = 2 ^ bit := by
    rw [ofBit, UInt32.toNat_shiftLeft, hword, Nat.mod_eq_of_lt hlt, UInt32.toNat_one,
      Nat.one_shiftLeft, Nat.mod_eq_of_lt hpow]
  rw [has, hmask, Nat.testBit_two_pow]
  exact decide_eq_decide.mpr eq_comm

theorem contains_iff : a.contains b = true ↔ ∀ bit, b.has bit = true → a.has bit = true := by
  rw [contains, beq_iff_eq, ← UInt32.toNat_inj, UInt32.toNat_and]
  constructor
  · intro h bit hbit
    rw [has, ← h, Nat.testBit_and, Bool.and_eq_true] at hbit
    exact hbit.1
  · intro h
    refine Nat.eq_of_testBit_eq fun bit => ?_
    rw [Nat.testBit_and, Bool.eq_iff_iff, Bool.and_eq_true]
    exact ⟨And.right, fun hbit => ⟨h bit hbit, hbit⟩⟩

theorem contains_ofBit {bit : Nat} (h : bit < capacity) : a.contains (ofBit bit) = a.has bit := by
  rw [Bool.eq_iff_iff, contains_iff]
  simp only [has_ofBit h, decide_eq_true_iff, forall_eq]

theorem contains_trans (h : a.contains b = true) (h' : b.contains c = true) :
    a.contains c = true :=
  contains_iff.mpr fun bit hbit => contains_iff.mp h bit (contains_iff.mp h' bit hbit)

theorem contains_union_iff :
    a.contains (b ∪ c) = true ↔ a.contains b = true ∧ a.contains c = true := by
  simp only [contains_iff, has_union, Bool.or_eq_true]
  exact ⟨fun h => ⟨fun bit hbit => h bit (.inl hbit), fun bit hbit => h bit (.inr hbit)⟩,
    fun h bit hbit => hbit.elim (h.1 bit) (h.2 bit)⟩

theorem toSet_eq_ofBit (profile : HostProfile) : profile.toSet = ofBit profile.bit.toNat := by
  cases profile <;> rfl

/-- A profile of the host is contained in a set exactly if its one member is. -/
theorem contains_toSet_of_has {profile : HostProfile} {bit : Nat}
    (h : profile.toSet.has bit = true) : a.contains profile.toSet = a.has bit := by
  have hbit : profile.bit.toNat < capacity := by cases profile <;> decide
  rw [toSet_eq_ofBit] at h ⊢
  rw [has_ofBit hbit, decide_eq_true_iff] at h
  rw [h, contains_ofBit hbit]

/-! ## The parts of a set -/

/-- All members of these sets. -/
def unionAll (sets : List ProfileSet) : ProfileSet := sets.foldr (· ∪ ·) any

theorem has_unionAll (sets : List ProfileSet) (bit : Nat) :
    (unionAll sets).has bit = sets.any (·.has bit) := by
  induction sets with
  | nil => exact has_any bit
  | cons set sets ih =>
    rw [List.any_cons, ← ih]
    exact has_union ..

/-- The members that are left when some profiles of the host are taken out. -/
theorem has_foldl_diff (profiles : List HostProfile) (set : ProfileSet) (bit : Nat) :
    (profiles.foldl (fun rest profile => rest.diff profile.toSet) set).has bit =
      (set.has bit && !profiles.any (·.toSet.has bit)) := by
  induction profiles generalizing set with
  | nil =>
    rw [List.any_nil, Bool.not_false, Bool.and_true]
    rfl
  | cons profile profiles ih =>
    rw [List.foldl_cons, ih, has_diff, List.any_cons, Bool.not_or, Bool.and_assoc]

/-- The host's members are those members that are profiles of the host. -/
theorem any_hostMembers (a : ProfileSet) (bit : Nat) :
    (a.hostMembers.map HostProfile.toSet).any (·.has bit) =
      (a.has bit && HostProfile.all.any (·.toSet.has bit)) := by
  have hmember (profile : HostProfile) :
      (a.contains profile.toSet && profile.toSet.has bit) =
        (a.has bit && profile.toSet.has bit) := by
    cases hbit : profile.toSet.has bit with
    | false => rw [Bool.and_false, Bool.and_false]
    | true => rw [contains_toSet_of_has hbit]
  rw [hostMembers, List.any_map, List.any_filter, List.and_any_distrib_left]
  exact congrArg HostProfile.all.any (funext hmember)

/-- Nothing is left out of the parts of a set, and nothing is added. -/
theorem unionAll_parts (a : ProfileSet) : unionAll a.parts = a := by
  refine ext_has fun bit => ?_
  have hrest : (if a.pluginMembers.isEmpty then [] else [a.pluginMembers]).any (·.has bit) =
      a.pluginMembers.has bit := by
    split
    · rename_i hempty
      rw [eq_any_of_isEmpty hempty, has_any, List.any_nil]
    · rw [List.any_cons, List.any_nil, Bool.or_false]
  rw [has_unionAll, parts, List.any_append, any_hostMembers, hrest, pluginMembers, has_foldl_diff,
    ← Bool.and_or_distrib_left, Bool.or_not_self, Bool.and_true]

end PluginHost.ProfileSet
