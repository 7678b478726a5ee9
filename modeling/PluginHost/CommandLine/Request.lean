import PluginHost.Allocation.Policy
import PluginHost.CommandLine.Words
import PluginHost.Numeric.Numeral

/-!
# What a command line asks for

A command line asks for the version or for one of three answers. One that asks for neither, or that
leaves out, repeats or spoils an option, is misused; nothing is said about how.
-/
namespace PluginHost.CommandLine

/-- Which manifest a query is about, and which profiles are active. -/
structure Selection where
  manifest : String
  /-- The names of the active profiles. Without names those of the manifest are active. -/
  profiles : List String := []
  /-- Further active profiles, by their bits. -/
  mask : UInt32 := 0
deriving DecidableEq, Repr

/-- What a command asks for. -/
inductive Command where
  | resolve (selection : Selection) (contract : String)
  | check (selection : Selection)
  /-- The sizes that a policy gives to lengths, or that every policy gives. -/
  | capacity (policy? : Option Allocation.Policy) (lengths : List UInt64)
deriving DecidableEq, Repr

/-- What a command line asks for. -/
inductive Request where
  | version
  | answer (command : Command)
deriving DecidableEq, Repr

/-- A natural number in decimal digits, which a plus sign may precede. -/
def natural? (text : String) : Option Nat :=
  match text.toList with
  | '+' :: digits | digits => Numeric.ofDigits? 10 digits

/-- A 64-bit length. -/
def length? (text : String) : Option UInt64 := do
  let value ← natural? text
  if value < UInt64.size then some (.ofNat value) else none

/-- The bits of a set of profiles. A minus sign may stand before a zero. -/
def mask? (text : String) : Option UInt32 := do
  match text.toList with
  | '-' :: digits => if (← Numeric.ofDigits? 10 digits) = 0 then some 0 else none
  | _ =>
    let value ← natural? text
    if value < UInt32.size then some (.ofNat value) else none

/-- The value of an option that may be given once; the outer `none` says that it was given more
often. -/
def single? (option : Flag) (items : List Item) : Option (Option String) :=
  match valuesOf option items with
  | [] => some none
  | [value] => some (some value)
  | _ :: _ :: _ => none

/-- The items of the words after a command, which knows these options beside `verbose`. -/
def commandItems? (known : List Flag) (words : List String) : Option (List Item) := do
  let items ← items? (.verbose :: known) words
  if timesGiven .verbose items ≤ 1 then some items else none

/-- The manifest and the profiles that the items select. The path of a manifest is never empty. -/
def Selection.ofItems? (items : List Item) : Option Selection := do
  let manifest ← (← single? .manifest items).filter (·.toList ≠ [])
  let mask ← match ← single? .mask items with
    | none => some 0
    | some text => mask? text
  return { manifest := manifest, profiles := valuesOf .profile items, mask := mask }

def Selection.flags : List Flag := [.manifest, .profile, .mask]

namespace Command

/-- The command of this name with these words after it. -/
def ofWords? (name : String) (words : List String) : Option Command :=
  if name = "resolve" then do
    let items ← commandItems? Selection.flags words
    match operands items with
    | [contract] => return .resolve (← Selection.ofItems? items) contract
    | _ => none
  else if name = "check" then do
    let items ← commandItems? Selection.flags words
    match operands items with
    | [] => return .check (← Selection.ofItems? items)
    | _ => none
  else if name = "capacity" then do
    let items ← commandItems? [.policy] words
    let policy? ← match ← single? .policy items with
      | none => some none
      | some text => (Allocation.Policy.ofName? text).map some
    match ← (operands items).mapM length? with
    | [] => none
    | lengths => return .capacity policy? lengths
  else
    none

end Command

namespace Request

/-- What options before the command come to. -/
inductive Preamble where
  | version
  /-- A command is still to come; the flag says whether more diagnostics were asked for. -/
  | continues (verbose : Bool)
deriving DecidableEq, Repr

def afterFlag? (verbose : Bool) (option? : Option Flag) : Option Preamble :=
  match option? with
  | some .version => some .version
  | some .verbose => if verbose then none else some (.continues true)
  | _ => none

def afterLetters? (verbose : Bool) : List Char → Option Preamble
  | [] => some (.continues verbose)
  | letter :: letters => do
    let known : List Flag := [.verbose, .version]
    match ← afterFlag? verbose (known.find? (·.letter? == some letter)) with
    | .version => some .version
    | .continues verbose => afterLetters? verbose letters

/-- What the words ask for, after `verbose` was given or not. -/
def ofWords? (verbose : Bool) : List String → Option Request
  | [] => none
  | word :: words => do
    let preamble ← match Word.ofString word with
      | .operand name => return .answer (← Command.ofWords? name words)
      | .long name none =>
        let known : List Flag := [.verbose, .version]
        afterFlag? verbose (known.find? (·.longName == name))
      | .letters letters => afterLetters? verbose letters
      | .long _ (some _) | .separator => none
    match preamble with
    | .version => some .version
    | .continues verbose => ofWords? verbose words

/-- What a command line asks for, or `none` if it is misused. The version is told as soon as it is
asked for, whatever follows. -/
def ofArguments? (words : List String) : Option Request := ofWords? false words

end Request

end PluginHost.CommandLine
