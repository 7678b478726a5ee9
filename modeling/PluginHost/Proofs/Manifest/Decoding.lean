import Mathlib.Data.List.Forall2
import PluginHost.Manifest.Source
import PluginHost.Proofs.Toml.Ordered

/-!
# Which documents are manifests

A decoder that succeeds has lost nothing: the value tree is the one that its result stands for. So
the schema can be read off the results. What is decoded from a tree is stated as a relation between
the two, and from that follows which trees there are results for.
-/
namespace PluginHost

open Toml (Value Table Ascending)

theorem eq_ok_of_toOption {ε α : Type} {result : Except ε α} {value : α}
    (h : result.toOption = some value) : result = .ok value := by
  cases result with
  | error error => cases h
  | ok found => rw [Option.some.inj h]

namespace Manifest

theorem bind_eq_ok_iff {α β : Type} {first : Except SchemaError α}
    {next : α → Except SchemaError β} {result : β} :
    (first >>= next) = .ok result ↔ ∃ made, first = .ok made ∧ next made = .ok result := by
  cases first with
  | error error => exact ⟨nofun, nofun⟩
  | ok made =>
    refine ⟨fun h => ⟨made, rfl, h⟩, ?_⟩
    rintro ⟨_, ⟨⟩, h⟩
    exact h

theorem pure_eq_ok_iff {α : Type} {made result : α} :
    (pure made : Except SchemaError α) = .ok result ↔ made = result :=
  ⟨Except.ok.inj, congrArg Except.ok⟩

/-! ## Texts and bits -/

/-- The sequence of these texts. -/
def textsValue (texts : List String) : Value := .array (texts.map .string)

/-- The table of these names with the positions of their bits. -/
def bitsValue (bits : List (String × UInt8)) : Value :=
  .table (bits.map fun (name, bit) => (name, .integer bit.toNat))

theorem decodeText_eq_ok_iff {value : Value} {text : String} :
    decodeText value = .ok text ↔ value = .string text := by
  cases value <;> simp [decodeText]

theorem decodeBit_eq_ok_iff {value : Value} {bit : UInt8} :
    decodeBit value = .ok bit ↔ value = .integer bit.toNat := by
  have hbit := bit.toNat_lt
  cases value with
  | integer number =>
    simp only [decodeBit, Value.integer.injEq]
    constructor
    · intro h
      split at h
      · cases h
        rw [UInt8.toNat_ofNat']
        omega
      · split at h <;> cases h
    · rintro rfl
      rw [if_pos (by omega)]
      simp
  | _ => simp [decodeBit]

theorem decodeAll_eq_ok_iff {α : Type} {decode : Value → Except SchemaError α}
    {items : List Value} {results : List α} :
    decodeAll decode items = .ok results ↔
      List.Forall₂ (fun item result => decode item = .ok result) items results := by
  induction items generalizing results with
  | nil =>
    constructor
    · intro h
      cases h
      exact .nil
    · intro h
      cases h
      rfl
  | cons item items ih =>
    rw [decodeAll]
    simp only [bind_eq_ok_iff, ih]
    constructor
    · rintro ⟨first, hfirst, others, hothers, h⟩
      cases h
      exact .cons hfirst hothers
    · intro h
      cases h with
      | cons hfirst hothers => exact ⟨_, hfirst, _, hothers, rfl⟩

/-- Items that each are what a result stands for. -/
theorem forall₂_eq_iff {α β : Type} {write : α → β} {items : List β} {results : List α} :
    List.Forall₂ (fun item result => item = write result) items results ↔
      items = results.map write := by
  rw [← List.forall₂_map_right_iff (f := write), List.forall₂_eq_eq_eq]

theorem decodeTexts_eq_ok_iff {value : Value} {texts : List String} :
    decodeTexts value = .ok texts ↔ value = textsValue texts := by
  cases value with
  | array items =>
    simp only [decodeTexts, decodeAll_eq_ok_iff, decodeText_eq_ok_iff, textsValue,
      Value.array.injEq]
    exact forall₂_eq_iff
  | _ => simp [decodeTexts, textsValue]

theorem decodeBits_eq_ok_iff {entries : Table} {bits : List (String × UInt8)} :
    decodeBits entries = .ok bits ↔ .table entries = bitsValue bits := by
  rw [bitsValue, Value.table.injEq]
  induction entries generalizing bits with
  | nil => cases bits <;> simp [decodeBits]
  | cons entry entries ih =>
    obtain ⟨name, value⟩ := entry
    simp only [decodeBits, bind_eq_ok_iff, ih, decodeBit_eq_ok_iff]
    constructor
    · rintro ⟨bit, rfl, others, rfl, h⟩
      cases h
      rfl
    · intro h
      obtain ⟨⟨other, bit⟩, others, rfl, hfirst, hothers⟩ := List.map_eq_cons_iff.mp h.symm
      cases hfirst
      exact ⟨bit, rfl, others, hothers.symm, rfl⟩

theorem decodeProfiles_eq_ok_iff {value : Value} {bits : List (String × UInt8)} :
    decodeProfiles value = .ok bits ↔ value = bitsValue bits := by
  cases value with
  | table entries => exact decodeBits_eq_ok_iff
  | dateTime moment =>
    -- taken for a table, it has a text where the position of a bit should be
    simp [decodeProfiles, asTable?, decodeBits, decodeBit, bitsValue, bind_eq_ok_iff]
  | _ => simp [decodeProfiles, asTable?, bitsValue]

/-! ## Profiles of a binding -/

/-- What a specification of profiles is written as. -/
def specValue : ProfileSpec → Value
  | .mask bits => .integer bits.toNat
  | .names names => textsValue names

theorem texts?_eq_some_iff {items : List Value} {texts : List String} :
    texts? items = some texts ↔ items = texts.map .string := by
  induction items generalizing texts with
  | nil => cases texts <;> simp [texts?]
  | cons item items ih =>
    cases item with
    | string text =>
      simp only [texts?, Option.bind_eq_bind, Option.bind_eq_some_iff, ih]
      constructor
      · rintro ⟨others, rfl, h⟩
        cases h
        rfl
      · intro h
        obtain ⟨other, others, rfl, hfirst, hothers⟩ := List.map_eq_cons_iff.mp h.symm
        cases hfirst
        exact ⟨others, hothers.symm, rfl⟩
    | _ => cases texts <;> simp [texts?]

theorem profileSpec?_eq_some_iff {value : Value} {spec : ProfileSpec} :
    profileSpec? value = some spec ↔ value = specValue spec := by
  cases value with
  | integer number =>
    cases spec with
    | mask bits =>
      have hbits := bits.toNat_lt
      simp only [profileSpec?, specValue, Value.integer.injEq]
      constructor
      · intro h
        split at h
        · cases h
          rw [UInt32.toNat_ofNat']
          simp only [UInt32.size] at *
          omega
        · cases h
      · rintro rfl
        rw [if_pos (by simp only [UInt32.size]; omega)]
        simp
    | names names =>
      simp only [profileSpec?, specValue, textsValue]
      split <;> simp
  | array items =>
    cases spec with
    | mask bits => simp [profileSpec?, specValue]
    | names names =>
      simp only [profileSpec?, specValue, textsValue, Value.array.injEq, ← texts?_eq_some_iff]
      cases texts? items <;> simp
  | _ => cases spec <;> simp [profileSpec?, specValue, textsValue]

theorem checkItems_texts (texts : List String) : checkItems (texts.map .string) = .ok () := by
  induction texts with
  | nil => rfl
  | cons text texts ih =>
    rw [List.map_cons, checkItems]
    exact ih

/-- No specification of profiles holds a number that is refused. -/
theorem checkNumbers_specValue (spec : ProfileSpec) : checkNumbers (specValue spec) = .ok () := by
  cases spec with
  | mask bits =>
    have hbits := bits.toNat_lt
    have hsmall : isSmall bits.toNat = true := by
      rw [isSmall, Bool.and_eq_true, decide_eq_true_iff, decide_eq_true_iff, minSmall, maxSmall]
      omega
    rw [specValue, checkNumbers, if_pos hsmall]
  | names names =>
    rw [specValue, textsValue, checkNumbers]
    exact checkItems_texts names

theorem decodeProfileSpec_eq_ok_iff {value : Value} {spec : ProfileSpec} :
    decodeProfileSpec value = .ok spec ↔ value = specValue spec := by
  rw [← profileSpec?_eq_some_iff, decodeProfileSpec, bind_eq_ok_iff]
  constructor
  · rintro ⟨-, -, h⟩
    split at h
    · cases h
      assumption
    · cases h
  · intro h
    obtain rfl := profileSpec?_eq_some_iff.mp h
    refine ⟨(), checkNumbers_specValue spec, ?_⟩
    rw [h]
    rfl

/-! ## Fields of a table -/

/-- What is read from the value of a field, or `missing` where the table has no such field. -/
def FieldOf {α : Type} (reads : Value → α → Prop) (missing : α) (field? : Option Value)
    (result : α) : Prop :=
  match field? with
  | none => result = missing
  | some value => reads value result

section Fields

variable {name : String} {value : Value} {rest : Table}

theorem lookup_rest (h : Ascending ((name, value) :: rest)) : rest.lookup name = none := by
  refine List.lookup_eq_none_iff.mpr fun entry hentry => ?_
  have hlt : name < entry.1 :=
    (List.pairwise_cons.mp h).1 entry.1 (List.mem_map.mpr ⟨entry, hentry, rfl⟩)
  have hne : name ≠ entry.1 := fun heq => String.lt_irrefl name (heq ▸ hlt)
  simpa using hne

/-- A field that was just read is read nowhere else. -/
theorem fieldOf_lookup_self {α : Type} {reads : Value → α → Prop} {missing result : α}
    (h : Ascending ((name, value) :: rest)) :
    FieldOf reads missing (((name, value) :: rest).lookup name) result ↔
      ∃ made, reads value made ∧ FieldOf reads made (rest.lookup name) result := by
  rw [List.lookup_cons_self, lookup_rest h]
  constructor
  · exact fun h => ⟨result, h, rfl⟩
  · rintro ⟨made, hmade, rfl⟩
    exact hmade

theorem lookup_cons_of_ne {key : String} (hne : key ≠ name) :
    ((name, value) :: rest).lookup key = rest.lookup key := by
  rw [List.lookup_cons, beq_false_of_ne hne]

end Fields

/-- The text is the value of the field. -/
def ReadsText (value : Value) (text? : Option String) : Prop :=
  ∃ text, value = .string text ∧ text? = some text

def ReadsSpec (value : Value) (spec? : Option ProfileSpec) : Prop :=
  ∃ spec, value = specValue spec ∧ spec? = some spec

theorem collectEntryFields_eq_ok_iff {entries : Table} (hkeys : Ascending entries)
    {fields result : EntryFields} :
    collectEntryFields fields entries = .ok result ↔
      (∀ entry ∈ entries, entry.1 ∈ entryFieldNames) ∧
        FieldOf ReadsText fields.contract (entries.lookup "contract") result.contract ∧
        FieldOf ReadsText fields.implementation (entries.lookup "implementation")
          result.implementation ∧
        FieldOf ReadsSpec fields.profiles (entries.lookup "profiles") result.profiles := by
  induction entries generalizing fields with
  | nil =>
    obtain ⟨contract, implementation, profiles⟩ := fields
    obtain ⟨contract', implementation', profiles'⟩ := result
    simp [collectEntryFields, FieldOf, eq_comm]
  | cons entry rest ih =>
    obtain ⟨name, value⟩ := entry
    have hrest : Ascending rest := (List.pairwise_cons.mp hkeys).2
    rw [List.forall_mem_cons]
    by_cases hcontract : name = "contract"
    · subst hcontract
      rw [fieldOf_lookup_self hkeys, lookup_cons_of_ne (by decide), lookup_cons_of_ne (by decide)]
      simp only [collectEntryFields, bind_eq_ok_iff, decodeText_eq_ok_iff, pure_eq_ok_iff, ih hrest]
      grind [entryFieldNames, ReadsText]
    by_cases himplementation : name = "implementation"
    · subst himplementation
      rw [fieldOf_lookup_self hkeys, lookup_cons_of_ne (by decide), lookup_cons_of_ne (by decide)]
      simp only [collectEntryFields, bind_eq_ok_iff, decodeText_eq_ok_iff, pure_eq_ok_iff, ih hrest]
      grind [entryFieldNames, ReadsText]
    by_cases hprofiles : name = "profiles"
    · subst hprofiles
      rw [fieldOf_lookup_self hkeys, lookup_cons_of_ne (by decide), lookup_cons_of_ne (by decide)]
      simp only [collectEntryFields, bind_eq_ok_iff, decodeProfileSpec_eq_ok_iff, pure_eq_ok_iff,
        ih hrest]
      grind [entryFieldNames, ReadsSpec]
    · have hunknown : collectEntryFields fields ((name, value) :: rest) =
          .error (.unknownField name entryFieldNames) := by
        rw [collectEntryFields]
        · rfl
        · assumption
        · assumption
        · assumption
      rw [hunknown]
      simp [entryFieldNames, *]

/-! ## Bindings -/

/-- What is read as the profiles of a binding, which requires none where they are missing. -/
def SpecOf : Option Value → ProfileSpec → Prop := FieldOf (· = specValue ·) (.mask 0)

/-- The value is what a binding is written as: a table of its fields, or a sequence of them that
may be longer. -/
inductive EntryOf : Value → BindingEntry → Prop
  | table {entries entry} (known : ∀ field ∈ entries, field.1 ∈ entryFieldNames)
      (contract : entries.lookup "contract" = some (.string entry.contract))
      (implementation : entries.lookup "implementation" = some (.string entry.implementation))
      (profiles : SpecOf (entries.lookup "profiles") entry.profiles) :
      EntryOf (.table entries) entry
  | items {contract implementation spec rest} (profiles : SpecOf rest.head? spec) :
      EntryOf (.array (.string contract :: .string implementation :: rest))
        ⟨contract, implementation, spec⟩

theorem toEntry_eq_ok_iff {fields : EntryFields} {entry : BindingEntry} :
    fields.toEntry = .ok entry ↔ fields.contract = some entry.contract ∧
      fields.implementation = some entry.implementation ∧
      entry.profiles = fields.profiles.getD (.mask 0) := by
  obtain ⟨contract, implementation, profiles⟩ := fields
  obtain ⟨contract', implementation', profiles'⟩ := entry
  cases contract <;> cases implementation <;>
    simp [EntryFields.toEntry, default, eq_comm]

theorem fieldOf_readsText_iff {field? : Option Value} {text : String} :
    FieldOf ReadsText none field? (some text) ↔ field? = some (.string text) := by
  cases field? <;> simp [FieldOf, ReadsText]

theorem specOf_iff {field? : Option Value} {spec : ProfileSpec} :
    SpecOf field? spec ↔
      ∃ spec?, FieldOf ReadsSpec none field? spec? ∧ spec = spec?.getD (.mask 0) := by
  cases field? with
  | none => simp [SpecOf, FieldOf]
  | some value =>
    simp only [SpecOf, FieldOf, ReadsSpec]
    constructor
    · exact fun h => ⟨_, ⟨spec, h, rfl⟩, rfl⟩
    · rintro ⟨_, ⟨other, h, rfl⟩, rfl⟩
      exact h

theorem decodeEntry_table_iff {entries : Table} (hkeys : Ascending entries) {entry : BindingEntry} :
    decodeEntry (.table entries) = .ok entry ↔ EntryOf (.table entries) entry := by
  have hdecode : decodeEntry (.table entries) =
      collectEntryFields {} entries >>= EntryFields.toEntry := rfl
  simp only [hdecode, bind_eq_ok_iff, collectEntryFields_eq_ok_iff hkeys, toEntry_eq_ok_iff]
  constructor
  · rintro ⟨⟨_, _, spec?⟩, ⟨hknown, hcontract, himplementation, hprofiles⟩, rfl, rfl, hspec⟩
    exact .table hknown (fieldOf_readsText_iff.mp hcontract)
      (fieldOf_readsText_iff.mp himplementation) (specOf_iff.mpr ⟨spec?, hprofiles, hspec⟩)
  · intro h
    cases h with
    | table hknown hcontract himplementation hprofiles =>
      obtain ⟨spec?, hread, hspec⟩ := specOf_iff.mp hprofiles
      exact ⟨⟨_, _, spec?⟩, ⟨hknown, fieldOf_readsText_iff.mpr hcontract,
        fieldOf_readsText_iff.mpr himplementation, hread⟩, rfl, rfl, hspec⟩

theorem decodeEntryItems_eq_ok_iff {items : List Value} {entry : BindingEntry} :
    decodeEntryItems items = .ok entry ↔ EntryOf (.array items) entry := by
  obtain ⟨contract, implementation, spec⟩ := entry
  match items with
  | [] => exact ⟨nofun, nofun⟩
  | [first] =>
    refine ⟨fun h => ?_, nofun⟩
    obtain ⟨-, -, h⟩ := bind_eq_ok_iff.mp h
    cases h
  | [first, second] =>
    simp only [decodeEntryItems, bind_eq_ok_iff, decodeText_eq_ok_iff, pure_eq_ok_iff]
    constructor
    · rintro ⟨_, rfl, _, rfl, ⟨⟩⟩
      exact .items rfl
    · intro h
      cases h with
      | items hspec => exact ⟨_, rfl, _, rfl, congrArg _ hspec.symm⟩
  | first :: second :: third :: others =>
    simp only [decodeEntryItems, bind_eq_ok_iff, decodeText_eq_ok_iff, decodeProfileSpec_eq_ok_iff,
      pure_eq_ok_iff]
    constructor
    · rintro ⟨_, rfl, _, rfl, _, hspec, ⟨⟩⟩
      exact .items hspec
    · intro h
      cases h with
      | items hspec => exact ⟨_, rfl, _, rfl, spec, hspec, rfl⟩

/-- A binding is decoded from exactly what it is written as. -/
theorem decodeEntry_eq_ok_iff {value : Value} (h : value.Ordered) {entry : BindingEntry} :
    decodeEntry value = .ok entry ↔ EntryOf value entry := by
  cases h with
  | table hkeys => exact decodeEntry_table_iff hkeys
  | array => exact decodeEntryItems_eq_ok_iff
  | dateTime moment =>
    -- taken for a table, it has a key that is none of the fields
    refine ⟨fun h => ?_, nofun⟩
    obtain ⟨_, h, -⟩ := bind_eq_ok_iff.mp h
    cases h
  | string => exact ⟨nofun, nofun⟩
  | integer => exact ⟨nofun, nofun⟩
  | unreadableInteger => exact ⟨nofun, nofun⟩
  | float => exact ⟨nofun, nofun⟩
  | boolean => exact ⟨nofun, nofun⟩

/-- The value is a sequence of what bindings are written as. -/
def EntriesOf (value : Value) (entries : List BindingEntry) : Prop :=
  ∃ items, value = .array items ∧ List.Forall₂ EntryOf items entries

theorem decodeEntries_eq_ok_iff {value : Value} (h : value.Ordered) {entries : List BindingEntry} :
    decodeEntries value = .ok entries ↔ EntriesOf value entries := by
  cases h with
  | @array items hitems =>
    simp only [decodeEntries, decodeAll_eq_ok_iff, EntriesOf, Value.array.injEq, exists_eq_left']
    constructor
    · intro h
      exact ((List.forall₂_and_left _ _).mpr ⟨hitems, h⟩).imp fun item entry ⟨hitem, hdecode⟩ =>
        (decodeEntry_eq_ok_iff hitem).mp hdecode
    · intro h
      exact ((List.forall₂_and_left _ _).mpr ⟨hitems, h⟩).imp fun item entry ⟨hitem, hentry⟩ =>
        (decodeEntry_eq_ok_iff hitem).mpr hentry
  | _ => exact ⟨nofun, nofun⟩

/-! ## Manifests -/

/-- The table is what a manifest is written as. -/
structure Carries (manifest : Manifest) (table : Table) : Prop where
  known : ∀ field ∈ table, field.1 ∈ fieldNames
  profiles : FieldOf (· = bitsValue ·) [] (table.lookup "profiles") manifest.profiles
  active : FieldOf (· = textsValue ·) [] (table.lookup "active") manifest.active
  bindings : FieldOf EntriesOf [] (table.lookup "binding") manifest.bindings

theorem collectFields_eq_ok_iff {table : Table} (h : (Value.table table).Ordered)
    {manifest result : Manifest} :
    collectFields manifest table = .ok result ↔
      (∀ field ∈ table, field.1 ∈ fieldNames) ∧
        FieldOf (· = bitsValue ·) manifest.profiles (table.lookup "profiles") result.profiles ∧
        FieldOf (· = textsValue ·) manifest.active (table.lookup "active") result.active ∧
        FieldOf EntriesOf manifest.bindings (table.lookup "binding") result.bindings := by
  induction table generalizing manifest with
  | nil =>
    obtain ⟨profiles, active, bindings⟩ := manifest
    obtain ⟨profiles', active', bindings'⟩ := result
    simp [collectFields, FieldOf, eq_comm]
  | cons field rest ih =>
    obtain ⟨name, value⟩ := field
    obtain ⟨hkeys, hvalues⟩ : Ascending ((name, value) :: rest) ∧
        ∀ field ∈ (name, value) :: rest, field.2.Ordered := by
      cases h with
      | table hkeys hvalues => exact ⟨hkeys, hvalues⟩
    obtain ⟨hvalue, hothers⟩ := List.forall_mem_cons.mp hvalues
    have hrest : (Value.table rest).Ordered := .table (List.pairwise_cons.mp hkeys).2 hothers
    rw [List.forall_mem_cons]
    by_cases hprofiles : name = "profiles"
    · subst hprofiles
      rw [fieldOf_lookup_self hkeys, lookup_cons_of_ne (by decide), lookup_cons_of_ne (by decide)]
      simp only [collectFields, bind_eq_ok_iff, decodeProfiles_eq_ok_iff, pure_eq_ok_iff, ih hrest]
      grind [fieldNames]
    by_cases hactive : name = "active"
    · subst hactive
      rw [fieldOf_lookup_self hkeys, lookup_cons_of_ne (by decide), lookup_cons_of_ne (by decide)]
      simp only [collectFields, bind_eq_ok_iff, decodeTexts_eq_ok_iff, pure_eq_ok_iff, ih hrest]
      grind [fieldNames]
    by_cases hbinding : name = "binding"
    · subst hbinding
      rw [fieldOf_lookup_self hkeys, lookup_cons_of_ne (by decide), lookup_cons_of_ne (by decide)]
      simp only [collectFields, bind_eq_ok_iff, decodeEntries_eq_ok_iff hvalue, pure_eq_ok_iff,
        ih hrest]
      grind [fieldNames]
    · have hunknown : collectFields manifest ((name, value) :: rest) =
          .error (.unknownField name fieldNames) := by
        rw [collectFields]
        · rfl
        · assumption
        · assumption
        · assumption
      rw [hunknown]
      simp [fieldNames, *]

/-- A manifest is decoded from exactly what it is written as. -/
theorem ofTable_eq_ok_iff {table : Table} (h : (Value.table table).Ordered) {manifest : Manifest} :
    ofTable table = .ok manifest ↔ manifest.Carries table := by
  rw [ofTable, collectFields_eq_ok_iff h]
  exact ⟨fun ⟨hknown, hprofiles, hactive, hbindings⟩ => ⟨hknown, hprofiles, hactive, hbindings⟩,
    fun h => ⟨h.known, h.profiles, h.active, h.bindings⟩⟩

end Manifest

end PluginHost
