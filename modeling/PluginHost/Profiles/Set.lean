/-!
# Sets of runtime profiles

A binding may be restricted to runtime profiles. A set of profiles is a word of 32 bits: four bits
are profiles of the host itself and have names, the others are free for plugins. Every bit survives
every operation.
-/
namespace PluginHost

/-- A set of runtime profiles, one bit for each. -/
structure ProfileSet where
  /-- The bits of the members. -/
  mask : UInt32
deriving DecidableEq, Repr, Hashable

/-- A runtime profile that the host itself defines. -/
inductive HostProfile where
  /-- No interactive user interface is available. -/
  | headless
  /-- A user is driving the session. -/
  | interactive
  /-- The session runs under a test harness. -/
  | unitTest
  /-- Remote clients are served. -/
  | server
deriving DecidableEq, Repr

namespace HostProfile

/-- The host's profiles, in order of their bits. -/
def all : List HostProfile := [.headless, .interactive, .unitTest, .server]

def bit : HostProfile → UInt32
  | headless => 0
  | interactive => 1
  | unitTest => 2
  | server => 3

/-- The name of the profile in texts. -/
def name : HostProfile → String
  | headless => "HEADLESS"
  | interactive => "INTERACTIVE"
  | unitTest => "UNIT_TEST"
  | server => "SERVER"

def toSet (profile : HostProfile) : ProfileSet := ⟨1 <<< profile.bit⟩

end HostProfile

namespace ProfileSet

/-- The number of profiles that a set can tell apart. -/
def capacity : Nat := 32

/-- The empty set. As a requirement it is met by every set. -/
def any : ProfileSet := ⟨0⟩

instance : EmptyCollection ProfileSet := ⟨any⟩
instance : Inhabited ProfileSet := ⟨any⟩

/-- The set whose only member is the profile at this position, which is below `capacity`. -/
def ofBit (bit : Nat) : ProfileSet := ⟨1 <<< UInt32.ofNat bit⟩

def union (a b : ProfileSet) : ProfileSet := ⟨a.mask ||| b.mask⟩

def inter (a b : ProfileSet) : ProfileSet := ⟨a.mask &&& b.mask⟩

/-- The members of `a` that are not in `b`. -/
def diff (a b : ProfileSet) : ProfileSet := ⟨a.mask &&& ~~~b.mask⟩

def symmDiff (a b : ProfileSet) : ProfileSet := ⟨a.mask ^^^ b.mask⟩

def complement (a : ProfileSet) : ProfileSet := ⟨~~~a.mask⟩

instance : Union ProfileSet := ⟨union⟩
instance : Inter ProfileSet := ⟨inter⟩
instance : SDiff ProfileSet := ⟨diff⟩

def isEmpty (a : ProfileSet) : Bool := a.mask == 0

/-- Whether every one of the 32 profiles is a member. -/
def isAll (a : ProfileSet) : Bool := a.mask == ~~~0

/-- Whether every member of `b` is a member of `a`. -/
def contains (a b : ProfileSet) : Bool := a.mask &&& b.mask == b.mask

def intersects (a b : ProfileSet) : Bool := a.mask &&& b.mask != 0

/-- Whether what requires `required` may serve while the profiles of `active` are active: nothing is
required, or everything that is required is active. -/
def satisfies (active required : ProfileSet) : Bool := required.isEmpty || active.contains required

/-- The host's profiles that are members, in order of their bits. -/
def hostMembers (a : ProfileSet) : List HostProfile :=
  HostProfile.all.filter fun profile => a.contains profile.toSet

/-- The members that are not profiles of the host. -/
def pluginMembers (a : ProfileSet) : ProfileSet :=
  HostProfile.all.foldl (fun rest profile => rest.diff profile.toSet) a

/-- The set as one part for each of the host's profiles in it, and one more for all other members if
there are any. -/
def parts (a : ProfileSet) : List ProfileSet :=
  a.hostMembers.map HostProfile.toSet ++ if a.pluginMembers.isEmpty then [] else [a.pluginMembers]

theorem satisfies_iff (active required : ProfileSet) :
    active.satisfies required = true ↔ active.mask &&& required.mask = required.mask := by
  simp only [satisfies, isEmpty, contains, Bool.or_eq_true, beq_iff_eq]
  constructor
  · rintro (h | h)
    · rw [h, UInt32.and_zero]
    · exact h
  · exact Or.inr

end ProfileSet

end PluginHost
