import PluginHost.Numeric.Numeral
import PluginHost.Profiles.Set

/-!
# The text of a set of profiles

The names of the host's profiles in the set, in order of their bits, then one hexadecimal number for
all other members, joined by ` | `. The empty set is written `any`.
-/
namespace PluginHost.ProfileSet

def separator : String := " | "

def anyText : String := "any"

def hexText (a : ProfileSet) : String := "0x" ++ String.ofList (Numeric.hexDigits a.mask.toNat)

def textParts (a : ProfileSet) : List String :=
  a.hostMembers.map HostProfile.name ++
    if a.pluginMembers.isEmpty then [] else [a.pluginMembers.hexText]

def text (a : ProfileSet) : String :=
  if a.isEmpty then anyText else separator.intercalate a.textParts

/-- The text of a set in diagnostics, where the empty set is written as a number. -/
def debugText (a : ProfileSet) : String :=
  "ProfileSet(" ++ (if a.isEmpty then a.hexText else separator.intercalate a.textParts) ++ ")"

instance : ToString ProfileSet := ⟨text⟩

/-- A character of a name as it is compared: ASCII letters in upper case, and a hyphen as an
underscore. -/
def nameChar (c : Char) : Char := if c = '-' then '_' else c.toUpper

/-- The host's profile of this name, in any mixture of cases and with hyphens or underscores between
words. Only ASCII letters have cases here. -/
def named? (name : String) : Option ProfileSet :=
  let spelled := name.toList.map nameChar
  (HostProfile.all.find? fun profile => profile.name.toList == spelled).map HostProfile.toSet

end PluginHost.ProfileSet
