import PluginHost.Profiles.Text
import PluginHost.Text.Quoted

/-!
# Manifests

A manifest declares what a plugin binds: names for its own profiles, the profiles that are active
when the manifest is used on its own, and the bindings. A profile name is looked up among the
manifest's own names first and then among the host's.
-/
namespace PluginHost

/-- The profiles that an entry of a manifest requires. -/
inductive ProfileSpec where
  | mask (bits : UInt32)
  | names (names : List String)
deriving DecidableEq, Repr

instance : Inhabited ProfileSpec := ⟨.mask 0⟩

/-- One binding of a manifest. -/
structure BindingEntry where
  contract : String
  implementation : String
  profiles : ProfileSpec := default
deriving DecidableEq, Repr

/-- The declarations of a plugin. -/
structure Manifest where
  /-- The plugin's own profiles: the position of the bit of each name. -/
  profiles : List (String × UInt8) := []
  /-- The names of the profiles that are active when the manifest is used on its own. -/
  active : List String := []
  bindings : List BindingEntry := []
deriving DecidableEq, Repr

/-- Why a profile name stands for no set. -/
inductive ProfileError where
  /-- The name is neither one of the manifest nor one of the host. -/
  | unknown (name : String)
  /-- The manifest gives the name a bit that sets of profiles do not have. -/
  | bitOutOfRange (name : String) (bit : UInt8)
deriving DecidableEq, Repr

def ProfileError.message : ProfileError → String
  | .unknown name => s!"unknown profile {Text.quote name}"
  | .bitOutOfRange name bit =>
    s!"profile {Text.quote name} uses bit {bit}, but profile sets only have 32 bits"

namespace Manifest

/-- The set that a profile name stands for. A name of the manifest's own hides the host's profile of
that name, also where its bit is out of range. -/
def profile (manifest : Manifest) (name : String) : Except ProfileError ProfileSet :=
  match manifest.profiles.lookup name with
  | some bit =>
    if bit.toNat < ProfileSet.capacity then .ok (.ofBit bit.toNat)
    else .error (.bitOutOfRange name bit)
  | none =>
    match ProfileSet.named? name with
    | some set => .ok set
    | none => .error (.unknown name)

/-- Adds the sets that the names stand for to `set`, up to the first name that stands for none. -/
def addProfiles (manifest : Manifest) (set : ProfileSet) :
    List String → Except ProfileError ProfileSet
  | [] => .ok set
  | name :: names => do manifest.addProfiles (set ∪ (← manifest.profile name)) names

/-- The union of the sets that the names stand for, or the error of the first that stands for
none. -/
def profileSet (manifest : Manifest) (names : List String) : Except ProfileError ProfileSet :=
  manifest.addProfiles .any names

/-- The profiles that are active when the manifest is used on its own. -/
def activeProfiles (manifest : Manifest) : Except ProfileError ProfileSet :=
  manifest.profileSet manifest.active

def required (manifest : Manifest) : ProfileSpec → Except ProfileError ProfileSet
  | .mask bits => .ok ⟨bits⟩
  | .names names => manifest.profileSet names

end Manifest

end PluginHost
