import PluginHost.Proofs.Manifest.Registration
import PluginHost.Proofs.Profiles.Members

/-!
# What profile names stand for

A name of the manifest's own stands for one bit, and it hides the host's profile of that name even
where the bit is out of range. Any other name is spelled as the host spells its profiles. A list of
names stands for the union of what they stand for, so neither order nor repetition matters, and it
fails with the first name that stands for nothing.
-/
namespace PluginHost

namespace HostProfile

theorem mem_all (profile : HostProfile) : profile ∈ all := by cases profile <;> decide

theorem eq_of_name_eq {profile other : HostProfile} (h : profile.name = other.name) :
    profile = other := by
  cases profile <;> cases other <;> first | rfl | exact absurd h (by decide)

end HostProfile

namespace ProfileSet

/-- A name as the host spells its profiles: in upper case, with underscores for hyphens. -/
def hostSpelling (name : String) : String :=
  (name.map Char.toUpper).map fun c => if c = '-' then '_' else c

/-- No letter has a hyphen as its upper case. -/
theorem toUpper_ne_hyphen {c : Char} (h : c ≠ '-') : c.toUpper ≠ '-' := by
  intro heq
  by_cases hlower : 'a'.val ≤ c.val ∧ c.val ≤ 'z'.val
  · obtain ⟨hvalid, hupper⟩ : ∃ h, c.toUpper = ⟨c.val + ('A'.val - 'a'.val), h⟩ :=
      ⟨_, dif_pos hlower⟩
    have hsum := congrArg (·.val.toNat) (hupper.symm.trans heq)
    have hfirst := UInt32.le_iff_toNat_le.mp hlower.1
    have hlast := UInt32.le_iff_toNat_le.mp hlower.2
    have ha : 'a'.val.toNat = 97 := by decide
    have hz : 'z'.val.toNat = 122 := by decide
    have hshift : ('A'.val - 'a'.val).toNat = 0xFFFFFFE0 := by decide
    have hhyphen : '-'.val.toNat = 45 := by decide
    simp only [UInt32.toNat_add] at hsum
    omega
  · have hsame : c.toUpper = c := dif_neg hlower
    exact h (hsame ▸ heq)

/-- A hyphen has no upper case, so it does not matter which is replaced first. -/
theorem toList_hostSpelling (name : String) :
    (hostSpelling name).toList = name.toList.map nameChar := by
  rw [hostSpelling, String.toList_map, String.toList_map, List.map_map]
  refine List.map_congr_left fun c _ => ?_
  by_cases h : c = '-'
  · subst h
    decide
  · simp [nameChar, h, toUpper_ne_hyphen h]

theorem named?_eq_some_iff {name : String} {set : ProfileSet} :
    named? name = some set ↔
      ∃ profile : HostProfile, hostSpelling name = profile.name ∧ profile.toSet = set := by
  rw [named?, Option.map_eq_some_iff, ← toList_hostSpelling]
  constructor
  · rintro ⟨profile, hfound, rfl⟩
    have hname := List.find?_some hfound
    exact ⟨profile, (String.toList_inj.mp (beq_iff_eq.mp hname)).symm, rfl⟩
  · rintro ⟨profile, hname, rfl⟩
    rw [hname]
    cases hfound : HostProfile.all.find? fun other => other.name.toList == profile.name.toList with
    | none =>
      have hnone := List.find?_eq_none.mp hfound profile profile.mem_all
      exact absurd (beq_self_eq_true _) hnone
    | some other =>
      have hlists := (List.find?_eq_some_iff_append.mp hfound).1
      have hsame := String.toList_inj.mp (beq_iff_eq.mp hlists)
      exact ⟨other, rfl, congrArg _ (HostProfile.eq_of_name_eq hsame)⟩

theorem named?_eq_none_iff {name : String} :
    named? name = none ↔ ∀ profile : HostProfile, hostSpelling name ≠ profile.name := by
  rw [Option.eq_none_iff_forall_ne_some]
  constructor
  · exact fun h profile hname => h _ (named?_eq_some_iff.mpr ⟨profile, hname, rfl⟩)
  · intro h set hset
    obtain ⟨profile, hname, -⟩ := named?_eq_some_iff.mp hset
    exact h profile hname

end ProfileSet

namespace Manifest

/-- A name stands for a set of profiles in a manifest. -/
inductive StandsFor (manifest : Manifest) (name : String) : ProfileSet → Prop
  /-- The manifest gives the name a bit, and the set has that member alone. -/
  | own {set : ProfileSet} (bit : UInt8) (hbit : manifest.profiles.lookup name = some bit)
      (hlt : bit.toNat < 32) (hset : ∀ other, set.has other = true ↔ other = bit.toNat) :
      StandsFor manifest name set
  /-- The manifest does not mention the name, and the host has a profile of it. -/
  | host (profile : HostProfile) (hfree : manifest.profiles.lookup name = none)
      (hname : ProfileSet.hostSpelling name = profile.name) :
      StandsFor manifest name profile.toSet

/-- A name stands for nothing in a manifest, which is this error. -/
inductive StandsForNone (manifest : Manifest) (name : String) : ProfileError → Prop
  /-- Whatever the host has under the name. -/
  | beyond (bit : UInt8) (hbit : manifest.profiles.lookup name = some bit)
      (hge : 32 ≤ bit.toNat) : StandsForNone manifest name (.bitOutOfRange name bit)
  | unknown (hfree : manifest.profiles.lookup name = none)
      (hname : ∀ profile : HostProfile, ProfileSet.hostSpelling name ≠ profile.name) :
      StandsForNone manifest name (.unknown name)

section Names

variable {manifest : Manifest} {name : String} {names : List String}

theorem profile_eq_ok_iff {set : ProfileSet} :
    manifest.profile name = .ok set ↔ manifest.StandsFor name set := by
  constructor
  · intro h
    rw [profile] at h
    split at h
    · rename_i bit hbit
      split at h
      · rename_i hlt
        cases h
        refine .own bit hbit hlt fun other => ?_
        rw [ProfileSet.has_ofBit hlt, decide_eq_true_iff]
      · cases h
    · rename_i hfree
      split at h
      · rename_i found hfound
        cases h
        obtain ⟨profile, hname, rfl⟩ := ProfileSet.named?_eq_some_iff.mp hfound
        exact .host profile hfree hname
      · cases h
  · rintro (⟨bit, hbit, hlt, hset⟩ | ⟨profile, hfree, hname⟩)
    · have hlt' : bit.toNat < ProfileSet.capacity := hlt
      have hsame : ProfileSet.ofBit bit.toNat = set := ProfileSet.ext_has fun other => by
        rw [Bool.eq_iff_iff, ProfileSet.has_ofBit hlt', decide_eq_true_iff, hset]
      simp only [Manifest.profile, hbit, if_pos hlt', hsame]
    · have hfound := ProfileSet.named?_eq_some_iff.mpr ⟨profile, hname, rfl⟩
      simp only [Manifest.profile, hfree, hfound]

theorem profile_eq_error_iff {error : ProfileError} :
    manifest.profile name = .error error ↔ manifest.StandsForNone name error := by
  constructor
  · intro h
    rw [profile] at h
    split at h
    · rename_i bit hbit
      split at h
      · cases h
      · rename_i hge
        cases h
        exact .beyond bit hbit (Nat.not_lt.mp hge)
    · rename_i hfree
      split at h
      · cases h
      · rename_i hnone
        cases h
        exact .unknown hfree (ProfileSet.named?_eq_none_iff.mp hnone)
  · rintro (⟨bit, hbit, hge⟩ | ⟨hfree, hname⟩)
    · have hge' : ¬bit.toNat < ProfileSet.capacity := Nat.not_lt.mpr hge
      simp only [profile, hbit, if_neg hge']
    · have hnone := ProfileSet.named?_eq_none_iff.mpr hname
      simp only [profile, hfree, hnone]

/-! ## Lists of names -/

theorem resolves_iff_standsFor :
    manifest.Resolves names ↔ ∀ name ∈ names, ∃ set, manifest.StandsFor name set :=
  forall₂_congr fun _ _ => exists_congr fun _ => profile_eq_ok_iff

theorem profileError?_eq_some_iff {error : ProfileError} :
    manifest.profileError? name = some error ↔ manifest.StandsForNone name error := by
  rw [← profile_eq_error_iff, profileError?]
  cases manifest.profile name <;> simp

theorem profileSet_eq_ok_iff {set : ProfileSet} :
    manifest.profileSet names = .ok set ↔
      manifest.Resolves names ∧ manifest.unionOf names = set := by
  constructor
  · intro h
    cases hfirst : names.findSome? manifest.profileError? with
    | none =>
      have hresolves := manifest.resolves_iff.mpr hfirst
      rw [manifest.profileSet_eq hresolves] at h
      exact ⟨hresolves, Except.ok.inj h⟩
    | some error =>
      rw [profileSet, manifest.addProfiles_of_error hfirst] at h
      cases h
  · rintro ⟨hresolves, rfl⟩
    exact manifest.profileSet_eq hresolves

theorem profileSet_eq_error_iff {error : ProfileError} :
    manifest.profileSet names = .error error ↔
      names.findSome? manifest.profileError? = some error := by
  constructor
  · intro h
    cases hfirst : names.findSome? manifest.profileError? with
    | none =>
      rw [manifest.profileSet_eq (manifest.resolves_iff.mpr hfirst)] at h
      cases h
    | some first =>
      rw [profileSet, manifest.addProfiles_of_error hfirst] at h
      exact congrArg some (Except.error.inj h)
  · exact fun h => manifest.addProfiles_of_error h .any

theorem has_unionOf (bit : Nat) :
    (manifest.unionOf names).has bit = true ↔
      ∃ name ∈ names, (manifest.meaning name).has bit = true := by
  induction names with
  | nil => simp
  | cons name names ih => simp [ih]

/-- Only which names there are matters. -/
theorem unionOf_congr {others : List String} (h : ∀ name, name ∈ names ↔ name ∈ others) :
    manifest.unionOf names = manifest.unionOf others := by
  refine ProfileSet.ext_has fun bit => ?_
  rw [Bool.eq_iff_iff, has_unionOf, has_unionOf]
  simp only [h]

theorem unionOf_append (front back : List String) :
    manifest.unionOf (front ++ back) = manifest.unionOf front ∪ manifest.unionOf back := by
  induction front with
  | nil => rw [List.nil_append, unionOf_nil, ProfileSet.any_union]
  | cons name front ih =>
    rw [List.cons_append, unionOf_cons, ih, unionOf_cons, ProfileSet.union_assoc]

theorem meaning_eq {set : ProfileSet} (h : manifest.StandsFor name set) :
    manifest.meaning name = set := by
  rw [meaning, profile_eq_ok_iff.mpr h]
  rfl

end Names

/-- A list of names stands for the union of what its names stand for. So the empty list stands for
nothing required, lists are joined by union, and order and repetition do not matter. If a name
stands for nothing, the first such name is the error. -/
theorem names_combine (manifest : Manifest) :
    (∀ names, (∃ set, manifest.profileSet names = .ok set) ↔
        ∀ name ∈ names, ∃ set, manifest.StandsFor name set) ∧
      (∀ names set, manifest.profileSet names = .ok set → ∀ bit, set.has bit = true ↔
        ∃ name ∈ names, ∃ part, manifest.StandsFor name part ∧ part.has bit = true) ∧
      manifest.profileSet [] = .ok .any ∧
      (∀ front back first second, manifest.profileSet front = .ok first →
        manifest.profileSet back = .ok second →
        manifest.profileSet (front ++ back) = .ok (first ∪ second)) ∧
      (∀ names others, (∀ name, name ∈ names ↔ name ∈ others) →
        ∀ set, manifest.profileSet names = .ok set ↔ manifest.profileSet others = .ok set) ∧
      ∀ names error, manifest.profileSet names = .error error ↔
        ∃ front name behind, names = front ++ name :: behind ∧
          (∀ earlier ∈ front, ∃ set, manifest.StandsFor earlier set) ∧
          manifest.StandsForNone name error := by
  refine ⟨fun names => ?_, fun names set h bit => ?_, rfl,
    fun front back first second hfirst hsecond => ?_, fun names others hsame set => ?_,
    fun names error => ?_⟩
  · simp only [profileSet_eq_ok_iff, resolves_iff_standsFor, exists_and_left, exists_eq', and_true]
  · obtain ⟨hresolves, rfl⟩ := profileSet_eq_ok_iff.mp h
    rw [has_unionOf]
    refine exists_congr fun name => and_congr_right fun hname => ?_
    obtain ⟨part, hpart⟩ := resolves_iff_standsFor.mp hresolves name hname
    rw [meaning_eq hpart]
    refine ⟨fun hbit => ⟨part, hpart, hbit⟩, ?_⟩
    rintro ⟨other, hother, hbit⟩
    rwa [← meaning_eq hpart, meaning_eq hother]
  · obtain ⟨hfront, rfl⟩ := profileSet_eq_ok_iff.mp hfirst
    obtain ⟨hback, rfl⟩ := profileSet_eq_ok_iff.mp hsecond
    exact profileSet_eq_ok_iff.mpr
      ⟨List.forall_mem_append.mpr ⟨hfront, hback⟩, unionOf_append front back⟩
  · have hresolves : manifest.Resolves names ↔ manifest.Resolves others :=
      forall_congr' fun name => imp_congr_left (hsame name)
    rw [profileSet_eq_ok_iff, profileSet_eq_ok_iff, hresolves, unionOf_congr hsame]
  · rw [profileSet_eq_error_iff, List.findSome?_eq_some_iff]
    refine exists_congr fun front => exists_congr fun name => exists_congr fun behind =>
      and_congr_right fun _ => ?_
    rw [and_comm, profileError?_eq_some_iff, ← resolves_iff_standsFor, manifest.resolves_iff,
      List.findSome?_eq_none_iff]

/-- Two names of the manifest's own, of which one hides a profile of the host behind a bit that is
out of range. -/
def shadowing : Manifest where
  profiles := [("gpu", 31), ("server", 40)]

theorem names_combine_shadowing :
    shadowing.profileSet ["gpu", "Unit-test", "gpu"] = .ok ⟨0x80000004⟩ ∧
      shadowing.profileSet ["Unit-test", "gpu"] = .ok ⟨0x80000004⟩ ∧
      shadowing.profileSet (["gpu", "Unit-test", "gpu"] ++ ["headless"]) = .ok ⟨0x80000005⟩ ∧
      (∃ name ∈ ["gpu", "Unit-test", "gpu"], ∃ part,
        shadowing.StandsFor name part ∧ part.has 31 = true) ∧
      shadowing.StandsForNone "server" (.bitOutOfRange "server" 40) ∧
      shadowing.profileSet ["headless", "server", "gpus", "gpu"] =
        .error (.bitOutOfRange "server" 40) := by
  obtain ⟨hsucceeds, hmembers, -, happend, hsame, hfails⟩ := names_combine shadowing
  have hserver : shadowing.StandsForNone "server" (.bitOutOfRange "server" 40) :=
    .beyond 40 (by decide) (by decide)
  have hfirst : shadowing.profileSet ["gpu", "Unit-test", "gpu"] = .ok ⟨0x80000004⟩ := by decide
  have hheadless : shadowing.profileSet ["headless"] = .ok ⟨1⟩ := by decide
  refine ⟨hfirst, (hsame _ _ (fun name => ?_) _).mp hfirst,
    happend _ _ _ _ hfirst hheadless, (hmembers _ _ hfirst 31).mp (by decide), hserver,
    (hfails _ _).mpr ⟨["headless"], "server", ["gpus", "gpu"], rfl, ?_, hserver⟩⟩
  · simp only [List.mem_cons]
    tauto
  · exact (hsucceeds ["headless"]).mp ⟨_, hheadless⟩

end Manifest

end PluginHost
