import PluginHost.Manifest.Schema

/-!
# Manifests from value trees

`Manifest.ofTable` turns the table of a document into a manifest, or says why it is none.
-/
namespace PluginHost

open Toml (Value Table)

namespace SchemaError

/-- The error that a value is not what its place asks for. A number that no format holds is an error
of its own, whatever the place asks for. -/
def ofMismatch (expected : Expectation) : Value → SchemaError
  | .string text => .wrongKind (.text text) expected
  | .integer number =>
    if minWide ≤ number ∧ number ≤ maxWide then .wrongKind (.integer number) expected
    else .integerOverflow
  | .unreadableInteger => .integerOverflow
  | .float (.decimal negative digits exponent) =>
    match Numeric.Magnitude.ofDecimal? digits exponent with
    | some magnitude => .wrongKind (.decimal negative magnitude) expected
    | none => .floatOverflow
  | .float (.infinity negative) => .wrongKind (.infinity negative) expected
  | .float .nan => .wrongKind .nan expected
  | .boolean truth => .wrongKind (.boolean truth) expected
  | .dateTime _ => .wrongKind .table expected
  | .array _ => .wrongKind .sequence expected
  | .table _ => .wrongKind .table expected

end SchemaError

namespace Manifest

/-- The key under which a date or time shows its text where it is taken for a table. -/
def dateTimeKey : String := "$__toml_private_datetime"

/-- The table that a value is taken for: its own one, or the one of a date or time, whose only entry
is its text. -/
def asTable? : Value → Option Table
  | .table entries => some entries
  | .dateTime moment => some [(dateTimeKey, .string moment.text)]
  | _ => none

def decodeText : Value → Except SchemaError String
  | .string text => .ok text
  | other => .error (.ofMismatch .text other)

/-- The position of a bit that a value is. -/
def decodeBit : Value → Except SchemaError UInt8
  | .integer number =>
    if 0 ≤ number ∧ number ≤ 255 then .ok (UInt8.ofNat number.toNat)
    else if isSmall number then .error (.bitOutOfRange number)
    else .error (.ofMismatch .bit (.integer number))
  | other => .error (.ofMismatch .bit other)

/-- The results of decoding each item, or the error of the first that cannot be decoded. -/
def decodeAll {α : Type} (decode : Value → Except SchemaError α) :
    List Value → Except SchemaError (List α)
  | [] => .ok []
  | item :: items => do
    let first ← decode item
    let others ← decodeAll decode items
    return first :: others

def decodeTexts : Value → Except SchemaError (List String)
  | .array items => decodeAll decodeText items
  | other => .error (.ofMismatch .sequence other)

/-- The entries of a table of names with the positions of their bits. -/
def decodeBits : Table → Except SchemaError (List (String × UInt8))
  | [] => .ok []
  | (name, value) :: entries => do
    let bit ← decodeBit value
    let others ← decodeBits entries
    return (name, bit) :: others

def decodeProfiles (value : Value) : Except SchemaError (List (String × UInt8)) :=
  match asTable? value with
  | some entries => decodeBits entries
  | none => .error (.ofMismatch .table value)

mutual

/-- Refuses a value that holds a number beyond every format, or an integer beyond 64 bits. The
profiles of a binding are looked at in full before they are told apart. -/
def checkNumbers : Value → Except SchemaError Unit
  | .integer number =>
    if isSmall number then .ok () else .error (.ofMismatch .anything (.integer number))
  | .unreadableInteger => .error (.ofMismatch .anything .unreadableInteger)
  | .float (.decimal negative digits exponent) =>
    match Numeric.Magnitude.ofDecimal? digits exponent with
    | some _ => .ok ()
    | none => .error (.ofMismatch .anything (.float (.decimal negative digits exponent)))
  | .array items => checkItems items
  | .table entries => checkEntries entries
  | _ => .ok ()

/-- Checks the items of a sequence in order. -/
def checkItems : List Value → Except SchemaError Unit
  | [] => .ok ()
  | item :: items => do
    checkNumbers item
    checkItems items

/-- Checks the values of a table in order of their keys. -/
def checkEntries : List (String × Value) → Except SchemaError Unit
  | [] => .ok ()
  | (_, value) :: entries => do
    checkNumbers value
    checkEntries entries

end

/-- The texts that all the values are, if each of them is one. -/
def texts? : List Value → Option (List String)
  | [] => some []
  | .string text :: items => do return text :: (← texts? items)
  | _ :: _ => none

/-- The profiles of a binding that a value stands for, if it is a mask or a sequence of names. -/
def profileSpec? : Value → Option ProfileSpec
  | .integer number =>
    if 0 ≤ number ∧ number < UInt32.size then some (.mask (UInt32.ofNat number.toNat)) else none
  | .array items => (texts? items).map .names
  | _ => none

def decodeProfileSpec (value : Value) : Except SchemaError ProfileSpec := do
  checkNumbers value
  match profileSpec? value with
  | some spec => return spec
  | none => throw .noProfileSpec

/-- The fields of a binding that have been seen. -/
structure EntryFields where
  contract : Option String := none
  implementation : Option String := none
  profiles : Option ProfileSpec := none

def entryFieldNames : List String := ["contract", "implementation", "profiles"]

/-- Takes up the entries of a table as fields of a binding. -/
def collectEntryFields (fields : EntryFields) : Table → Except SchemaError EntryFields
  | [] => .ok fields
  | (key, value) :: entries => do
    let fields ← match key with
      | "contract" => do pure { fields with contract := some (← decodeText value) }
      | "implementation" => do pure { fields with implementation := some (← decodeText value) }
      | "profiles" => do pure { fields with profiles := some (← decodeProfileSpec value) }
      | _ => throw (.unknownField key entryFieldNames)
    collectEntryFields fields entries

/-- The binding with these fields. Only the profiles may be missing. -/
def EntryFields.toEntry (fields : EntryFields) : Except SchemaError BindingEntry :=
  match fields.contract, fields.implementation with
  | none, _ => .error (.missingField "contract")
  | some _, none => .error (.missingField "implementation")
  | some contract, some implementation =>
    .ok ⟨contract, implementation, fields.profiles.getD default⟩

/-- A binding in the form of a sequence: contract, implementation and, if there is a third element,
profiles. Further elements are not looked at. -/
def decodeEntryItems : List Value → Except SchemaError BindingEntry
  | [] => .error (.tooShort 0)
  | [contract] => do
    let _ ← decodeText contract
    throw (.tooShort 1)
  | [contract, implementation] => do
    return ⟨← decodeText contract, ← decodeText implementation, default⟩
  | contract :: implementation :: profiles :: _ => do
    return ⟨← decodeText contract, ← decodeText implementation, ← decodeProfileSpec profiles⟩

/-- A binding, in the form of a table or of a sequence. -/
def decodeEntry (value : Value) : Except SchemaError BindingEntry :=
  match asTable? value, value with
  | some entries, _ => do (← collectEntryFields {} entries).toEntry
  | none, .array items => decodeEntryItems items
  | none, other => .error (.ofMismatch .binding other)

def decodeEntries : Value → Except SchemaError (List BindingEntry)
  | .array items => decodeAll decodeEntry items
  | other => .error (.ofMismatch .sequence other)

def fieldNames : List String := ["profiles", "active", "binding"]

/-- Takes up the entries of a table as fields of a manifest. -/
def collectFields (manifest : Manifest) : Table → Except SchemaError Manifest
  | [] => .ok manifest
  | (key, value) :: entries => do
    let manifest ← match key with
      | "profiles" => do pure { manifest with profiles := ← decodeProfiles value }
      | "active" => do pure { manifest with active := ← decodeTexts value }
      | "binding" => do pure { manifest with bindings := ← decodeEntries value }
      | _ => throw (.unknownField key fieldNames)
    collectFields manifest entries

/-- The manifest that the table of a document stands for. -/
def ofTable (table : Table) : Except SchemaError Manifest := collectFields {} table

end Manifest

end PluginHost
