import PluginHost.Manifest.Basic
import PluginHost.Numeric.Shortest
import PluginHost.Toml.DateTime

/-!
# The schema of a manifest

Which value trees are manifests. Tables are visited in ascending order of their keys and depth
first; the first thing that does not fit is the error, and a field that is missing is noticed after
all fields that are present.
-/
namespace PluginHost

/-- What a place in a manifest asks for. -/
inductive Expectation where
  | text
  | sequence
  | table
  /-- The position of a bit, from 0 to 255. -/
  | bit
  | binding
  /-- A value of any kind whose size the format can hold. -/
  | anything
deriving DecidableEq, Repr

def Expectation.words : Expectation → String
  | .text => "a string"
  | .sequence => "a sequence"
  | .table => "a map"
  | .bit => "u8"
  | .binding => "struct BindingEntry"
  | .anything => "any value"

/-- What stands in the place instead. -/
inductive Found where
  | text (text : String)
  | integer (number : Int)
  | decimal (negative : Bool) (magnitude : Numeric.Magnitude)
  | infinity (negative : Bool)
  | nan
  | boolean (truth : Bool)
  | sequence
  /-- A table. Dates and times count as tables. -/
  | table
deriving DecidableEq, Repr

/-- The least integer that 64 bits hold. -/
def minSmall : Int := -0x8000000000000000

/-- The greatest integer that 64 bits hold without a sign. -/
def maxSmall : Int := 0xFFFFFFFFFFFFFFFF

/-- The least integer that 128 bits hold. -/
def minWide : Int := -0x80000000000000000000000000000000

/-- The greatest integer that 128 bits hold with a sign. -/
def maxSignedWide : Int := 0x7FFFFFFFFFFFFFFFFFFFFFFFFFFFFFFF

/-- The greatest integer that 128 bits hold without a sign. -/
def maxWide : Int := 0xFFFFFFFFFFFFFFFFFFFFFFFFFFFFFFFF

/-- Whether 64 bits hold the integer, with a sign or without one. -/
def isSmall (number : Int) : Bool := minSmall ≤ number && number ≤ maxSmall

/-- The words for an integer, with the width that it needs where that is more than 64 bits. -/
def integerWords (number : Int) : String :=
  let width :=
    if isSmall number then ""
    else if number ≤ maxSignedWide then " as i128"
    else " as u128"
  s!"integer \x60{number}\x60{width}"

def Found.words : Found → String
  | .text value => s!"string {Text.quote value}"
  | .integer number => integerWords number
  | .decimal negative magnitude =>
    let sign := if negative then "-" else ""
    s!"floating point \x60{sign}{String.ofList magnitude.shortest.positionalWithPoint}\x60"
  | .infinity negative =>
    if negative then "floating point \x60-inf\x60" else "floating point \x60inf\x60"
  | .nan => "floating point \x60NaN\x60"
  | .boolean truth => s!"boolean \x60{truth}\x60"
  | .sequence => "sequence"
  | .table => "map"

/-- Why a value tree is no manifest. -/
inductive SchemaError where
  /-- A table has a key that is not one of the known ones. -/
  | unknownField (name : String) (known : List String)
  | missingField (name : String)
  | wrongKind (found : Found) (expected : Expectation)
  | bitOutOfRange (number : Int)
  /-- A binding in the form of a sequence has too few elements. -/
  | tooShort (length : Nat)
  /-- The profiles of a binding are neither a mask nor a sequence of names. -/
  | noProfileSpec
  /-- An integer stands for no number or for one that needs more than 128 bits. -/
  | integerOverflow
  /-- A float is beyond the largest one of 64 bits. -/
  | floatOverflow
deriving DecidableEq, Repr

def fieldWords (name : String) : String := "\x60" ++ name ++ "\x60"

def SchemaError.message : SchemaError → String
  | .unknownField name known =>
    s!"unknown field {fieldWords name}, expected one of " ++ ", ".intercalate (known.map fieldWords)
  | .missingField name => s!"missing field {fieldWords name}"
  | .wrongKind found expected => s!"invalid type: {found.words}, expected {expected.words}"
  | .bitOutOfRange number => s!"invalid value: {integerWords number}, expected u8"
  | .tooShort length =>
    s!"invalid length {length}, expected struct BindingEntry with 3 elements"
  | .noProfileSpec => "data did not match any variant of untagged enum ProfileSpec"
  | .integerOverflow => "integer number overflowed"
  | .floatOverflow => "floating-point number overflowed"

end PluginHost
