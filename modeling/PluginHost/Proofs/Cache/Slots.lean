import PluginHost.Cache.Slot

/-!
# Slots and how buckets are read and written

A list of buckets is read by hash and written by hash. In a tidy list every hash has one bucket at
most, so what was written is what is read back, and nothing else changed. The slots of all buckets
taken together are followed up to their order: a write exchanges the slots of one bucket and leaves
a remainder that does not depend on what was written.
-/
namespace PluginHost

variable {H K V : Type}

namespace Slot

variable {strategy : KeyStrategy H K} {alive : K → Bool} {probe : K} {slot : Slot K V}

theorem isLive_iff : slot.isLive alive = true ↔ ∃ owner ∈ slot.owners, alive owner = true :=
  List.any_eq_true

theorem isLive_eq_false_iff :
    slot.isLive alive = false ↔ ∀ owner ∈ slot.owners, alive owner = false := by
  simp [isLive]

/-- A slot answers by one of its living owners. -/
theorem exists_owner_of_answers (h : slot.answers strategy alive probe = true) :
    ∃ owner ∈ slot.owners, alive owner = true ∧ strategy.equal owner probe = true := by
  obtain ⟨owner, howner, hequal⟩ := (Option.any_eq_true ..).mp h
  exact ⟨owner, List.mem_of_find?_eq_some howner, List.find?_some howner, hequal⟩

theorem isLive_singleton {key : K} {value : V} (h : alive key = true) :
    (⟨[key], value⟩ : Slot K V).isLive alive = true :=
  isLive_iff.mpr ⟨key, List.mem_singleton_self key, h⟩

theorem mem_addOwner [DecidableEq K] {key owner : K} :
    owner ∈ (slot.addOwner alive key).owners ↔
      owner = key ∨ owner ∈ slot.owners ∧ alive owner = true := by
  simp only [addOwner]
  split
  · rename_i hkey
    constructor
    · exact fun howner => .inr (List.mem_filter.mp howner)
    · rintro (rfl | howner)
      · exact hkey
      · exact List.mem_filter.mpr howner
  · simp [or_comm]

theorem isLive_addOwner [DecidableEq K] {key : K} (slot : Slot K V) (h : alive key = true) :
    (slot.addOwner alive key).isLive alive = true :=
  isLive_iff.mpr ⟨key, mem_addOwner.mpr (.inl rfl), h⟩

end Slot

namespace Bucket

/-- No two buckets have the same hash, and none is without slots. -/
structure Tidy (buckets : List (Bucket H K V)) : Prop where
  hashes : (buckets.map (·.hash)).Nodup
  nonempty : ∀ bucket ∈ buckets, bucket.slots ≠ []

theorem Tidy.nil : Tidy ([] : List (Bucket H K V)) := ⟨List.nodup_nil, by simp⟩

theorem Tidy.tail {bucket : Bucket H K V} {others} (h : Tidy (bucket :: others)) :
    Tidy others :=
  ⟨(List.nodup_cons.mp h.hashes).2, fun b hb => h.nonempty b (List.mem_cons_of_mem _ hb)⟩

theorem Tidy.head {bucket : Bucket H K V} {others} (h : Tidy (bucket :: others)) :
    bucket.hash ∉ others.map (·.hash) :=
  (List.nodup_cons.mp h.hashes).1

theorem slotCount_eq_length (buckets : List (Bucket H K V)) :
    slotCount buckets = (buckets.flatMap (·.slots)).length := by
  induction buckets with
  | nil => rfl
  | cons bucket others ih => simp [slotCount, ih]

/-! ## A sweep keeps the live slots in their order -/

theorem flatMap_surviving (alive : K → Bool) (buckets : List (Bucket H K V)) :
    (buckets.filterMap (surviving? alive)).flatMap (·.slots) =
      (buckets.flatMap (·.slots)).filter (·.isLive alive) := by
  induction buckets with
  | nil => rfl
  | cons bucket others ih =>
    by_cases hlive : bucket.slots.filter (·.isLive alive) = []
    · simp [surviving?, hlive, ih]
    · simp [surviving?, hlive, ih]

theorem flatMap_dead (alive : K → Bool) (buckets : List (Bucket H K V)) :
    buckets.flatMap (dead alive) =
      (buckets.flatMap (·.slots)).filter (!·.isLive alive) := by
  induction buckets with
  | nil => rfl
  | cons bucket others ih => simp [dead, ih]

theorem mem_hash_of_surviving {alive : K → Bool} {buckets : List (Bucket H K V)} {hash : H}
    (h : hash ∈ (buckets.filterMap (surviving? alive)).map (·.hash)) :
    hash ∈ buckets.map (·.hash) := by
  obtain ⟨kept, hkept, rfl⟩ := List.mem_map.mp h
  obtain ⟨bucket, hbucket, hsurvives⟩ := List.mem_filterMap.mp hkept
  simp only [surviving?] at hsurvives
  split at hsurvives
  · cases hsurvives
  · cases hsurvives
    exact List.mem_map.mpr ⟨bucket, hbucket, rfl⟩

theorem Tidy.surviving {buckets : List (Bucket H K V)} (h : Tidy buckets) (alive : K → Bool) :
    Tidy (buckets.filterMap (surviving? alive)) := by
  constructor
  · induction buckets with
    | nil => exact List.nodup_nil
    | cons bucket others ih =>
      have hother := ih h.tail
      by_cases hlive : bucket.slots.filter (·.isLive alive) = []
      · simpa [surviving?, hlive] using hother
      · have hnew : bucket.hash ∉ (others.filterMap (surviving? alive)).map (·.hash) :=
          fun hmem => h.head (mem_hash_of_surviving hmem)
        have hkept : surviving? alive bucket =
            some ⟨bucket.hash, bucket.slots.filter (·.isLive alive)⟩ := by
          simp [surviving?, hlive]
        rw [List.filterMap_cons_some hkept, List.map_cons]
        exact List.nodup_cons.mpr ⟨hnew, hother⟩
  · intro kept hkept
    obtain ⟨bucket, -, hsurvives⟩ := List.mem_filterMap.mp hkept
    simp only [surviving?] at hsurvives
    split at hsurvives
    · cases hsurvives
    · rename_i hlive
      cases hsurvives
      simpa using hlive

variable [DecidableEq H]

theorem slotsAt_eq_nil {hash : H} {buckets : List (Bucket H K V)}
    (h : hash ∉ buckets.map (·.hash)) : slotsAt hash buckets = [] := by
  induction buckets with
  | nil => rfl
  | cons bucket others ih =>
    simp only [List.map_cons, List.mem_cons, not_or] at h
    rw [slotsAt, if_neg (Ne.symm h.1), ih h.2]

theorem slotsAt_surviving {buckets : List (Bucket H K V)} (h : Tidy buckets) (alive : K → Bool)
    (hash : H) :
    slotsAt hash (buckets.filterMap (surviving? alive)) =
      (slotsAt hash buckets).filter (·.isLive alive) := by
  induction buckets with
  | nil => rfl
  | cons bucket others ih =>
    -- a bucket without live slots is left out, and nothing is read in its place
    have hother := ih h.tail
    by_cases hlive : bucket.slots.filter (·.isLive alive) = []
    · by_cases hsame : bucket.hash = hash
      · subst hsame
        have hnone := slotsAt_eq_nil (V := V) h.head
        simp [surviving?, hlive, slotsAt, hother, hnone]
      · simp [surviving?, hlive, slotsAt, hother, hsame]
    · by_cases hsame : bucket.hash = hash
      · simp [surviving?, hlive, slotsAt, hsame]
      · simp [surviving?, hlive, slotsAt, hother, hsame]

/-! ## A write is read back -/

theorem mem_hash_of_setSlots {hash other : H} {slots : List (Slot K V)}
    {buckets : List (Bucket H K V)} (h : other ∈ (setSlots hash slots buckets).map (·.hash)) :
    other = hash ∨ other ∈ buckets.map (·.hash) := by
  induction buckets with
  | nil => cases slots <;> simp_all [setSlots]
  | cons bucket others ih =>
    by_cases hsame : bucket.hash = hash
    · cases slots <;> simp_all [setSlots]
    · simp only [setSlots, hsame, if_false, List.map_cons, List.mem_cons] at h ⊢
      rcases h with h | h
      · exact .inr (.inl h)
      · rcases ih h with h | h
        · exact .inl h
        · exact .inr (.inr h)

theorem slotsAt_setSlots_ne {hash other : H} (hne : other ≠ hash) (slots : List (Slot K V))
    (buckets : List (Bucket H K V)) :
    slotsAt other (setSlots hash slots buckets) = slotsAt other buckets := by
  induction buckets with
  | nil => cases slots <;> simp [setSlots, slotsAt, Ne.symm hne]
  | cons bucket others ih =>
    by_cases hsame : bucket.hash = hash
    · cases slots <;> simp [setSlots, slotsAt, hsame, Ne.symm hne]
    · simp [setSlots, slotsAt, hsame, ih]

theorem slotsAt_setSlots_self {buckets : List (Bucket H K V)} (h : Tidy buckets) (hash : H)
    (slots : List (Slot K V)) : slotsAt hash (setSlots hash slots buckets) = slots := by
  induction buckets with
  | nil => cases slots <;> simp [setSlots, slotsAt]
  | cons bucket others ih =>
    by_cases hsame : bucket.hash = hash
    · subst hsame
      have hnone := slotsAt_eq_nil (V := V) h.head
      cases slots <;> simp [setSlots, slotsAt, hnone]
    · simp [setSlots, slotsAt, hsame, ih h.tail]

theorem Tidy.setSlots {buckets : List (Bucket H K V)} (h : Tidy buckets) (hash : H)
    (slots : List (Slot K V)) : Tidy (Bucket.setSlots hash slots buckets) := by
  induction buckets with
  | nil =>
    cases slots with
    | nil => exact .nil
    | cons slot rest => exact ⟨by simp [Bucket.setSlots], by simp [Bucket.setSlots]⟩
  | cons bucket others ih =>
    by_cases hsame : bucket.hash = hash
    · subst hsame
      cases slots with
      | nil => simpa [Bucket.setSlots] using h.tail
      | cons slot rest =>
        constructor
        · simpa [Bucket.setSlots] using h.hashes
        · simpa [Bucket.setSlots] using h.tail.nonempty
    · have hother := ih h.tail
      simp only [Bucket.setSlots, hsame, if_false]
      constructor
      -- behind this bucket only the written hash can be new, and that is not its own
      · refine List.nodup_cons.mpr ⟨fun hmem => ?_, hother.hashes⟩
        rcases mem_hash_of_setSlots hmem with heq | hmem
        · exact hsame heq
        · exact h.head hmem
      · intro b hb
        rcases List.mem_cons.mp hb with rfl | hb
        · exact h.nonempty _ (by simp)
        · exact hother.nonempty b hb

/-! ## All slots together -/

/-- The buckets without the one of this hash. -/
def without (hash : H) (buckets : List (Bucket H K V)) : List (Bucket H K V) :=
  setSlots hash [] buckets

theorem perm_slotsAt_append (hash : H) (buckets : List (Bucket H K V)) :
    (buckets.flatMap (·.slots)).Perm
      (slotsAt hash buckets ++ (without hash buckets).flatMap (·.slots)) := by
  induction buckets with
  | nil => simp [slotsAt, without, setSlots]
  | cons bucket others ih =>
    by_cases hsame : bucket.hash = hash
    · simp [slotsAt, without, setSlots, hsame]
    · simp only [slotsAt, without, setSlots, hsame, if_false, List.flatMap_cons] at ih ⊢
      -- the slots of the other buckets are passed over, whatever their hashes
      calc bucket.slots ++ others.flatMap (·.slots)
        _ |>.Perm (bucket.slots ++ (slotsAt hash others ++
              (setSlots hash [] others).flatMap (·.slots))) := ih.append_left _
        _ |>.Perm (slotsAt hash others ++ (bucket.slots ++
              (setSlots hash [] others).flatMap (·.slots))) := List.perm_append_comm_assoc ..

theorem perm_setSlots (hash : H) (slots : List (Slot K V)) (buckets : List (Bucket H K V)) :
    ((setSlots hash slots buckets).flatMap (·.slots)).Perm
      (slots ++ (without hash buckets).flatMap (·.slots)) := by
  induction buckets with
  | nil => cases slots <;> simp [without, setSlots]
  | cons bucket others ih =>
    by_cases hsame : bucket.hash = hash
    · cases slots <;> simp [without, setSlots, hsame]
    · simp only [without, setSlots, hsame, if_false, List.flatMap_cons] at ih ⊢
      exact (ih.append_left _).trans (List.perm_append_comm_assoc ..)

/-- The hash of a bucket leads to the bucket. -/
theorem slotsAt_of_mem {buckets : List (Bucket H K V)} (h : Tidy buckets) {bucket : Bucket H K V}
    (hbucket : bucket ∈ buckets) : slotsAt bucket.hash buckets = bucket.slots := by
  induction buckets with
  | nil => cases hbucket
  | cons first others ih =>
    rcases List.mem_cons.mp hbucket with rfl | hbucket
    · rw [slotsAt, if_pos rfl]
    · have hne : first.hash ≠ bucket.hash := fun heq =>
        h.head (heq ▸ List.mem_map.mpr ⟨bucket, hbucket, rfl⟩)
      rw [slotsAt, if_neg hne, ih h.tail hbucket]

theorem mem_slots_iff {buckets : List (Bucket H K V)} (h : Tidy buckets) {slot : Slot K V} :
    slot ∈ buckets.flatMap (·.slots) ↔ ∃ hash, slot ∈ slotsAt hash buckets := by
  constructor
  · intro hmem
    obtain ⟨bucket, hbucket, hslot⟩ := List.mem_flatMap.mp hmem
    exact ⟨bucket.hash, slotsAt_of_mem h hbucket ▸ hslot⟩
  · rintro ⟨hash, hmem⟩
    exact (perm_slotsAt_append hash buckets).mem_iff.mpr (List.mem_append_left _ hmem)

end Bucket

end PluginHost
