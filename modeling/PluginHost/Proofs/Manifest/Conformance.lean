import PluginHost.Proofs.Manifest.Decoding

/-!
# The schema of a manifest

A document is a manifest if its value tree has a certain shape. What the shape asks for is said here
without reference to any decoder or reader: every tree of that shape is decoded, and no other, and a
document is decoded as the tree that it stands for.
-/
namespace PluginHost

open Toml (Value Table)

namespace Manifest

/-! ## The shape -/

def IsTexts (value : Value) : Prop :=
  ∃ items, value = .array items ∧ ∀ item ∈ items, ∃ text, item = .string text

/-- A table whose values are positions of bits. -/
def IsBits (value : Value) : Prop :=
  ∃ entries, value = .table entries ∧
    ∀ entry ∈ entries, ∃ number, entry.2 = .integer number ∧ 0 ≤ number ∧ number ≤ 255

/-- A mask of 32 bits, or names of profiles. -/
def IsSpec (value : Value) : Prop :=
  (∃ number, value = .integer number ∧ 0 ≤ number ∧ number ≤ 0xFFFFFFFF) ∨ IsTexts value

/-- A binding, in the form of a table or of a sequence. Only a table may not hold more than is
asked for. -/
inductive IsEntry : Value → Prop
  | table {entries}
      (known : ∀ field ∈ entries, field.1 ∈ ["contract", "implementation", "profiles"])
      (contract : ∃ text, entries.lookup "contract" = some (.string text))
      (implementation : ∃ text, entries.lookup "implementation" = some (.string text))
      (profiles : ∀ spec, entries.lookup "profiles" = some spec → IsSpec spec) :
      IsEntry (.table entries)
  | items {contract implementation rest} (profiles : ∀ spec, rest.head? = some spec → IsSpec spec) :
      IsEntry (.array (.string contract :: .string implementation :: rest))

/-- The table has no fields but those of a manifest, and each that it has is in shape. -/
structure Conforms (table : Table) : Prop where
  known : ∀ field ∈ table, field.1 ∈ ["profiles", "active", "binding"]
  profiles : ∀ value, table.lookup "profiles" = some value → IsBits value
  active : ∀ value, table.lookup "active" = some value → IsTexts value
  binding : ∀ value, table.lookup "binding" = some value →
    ∃ items, value = .array items ∧ ∀ item ∈ items, IsEntry item

/-! ## Results for everything in shape -/

theorem exists_forall₂_iff {α β : Type} {R : α → β → Prop} {items : List α} :
    (∃ results, List.Forall₂ R items results) ↔ ∀ item ∈ items, ∃ result, R item result := by
  induction items with
  | nil => simp
  | cons item items ih =>
    rw [List.forall_mem_cons, ← ih]
    constructor
    · rintro ⟨_, hall⟩
      cases hall with
      | cons hfirst hothers => exact ⟨⟨_, hfirst⟩, _, hothers⟩
    · rintro ⟨⟨first, hfirst⟩, others, hothers⟩
      exact ⟨first :: others, .cons hfirst hothers⟩

theorem exists_map_iff {α β : Type} {write : α → β} {items : List β} :
    (∃ made : List α, items = made.map write) ↔ ∀ item ∈ items, ∃ x, item = write x := by
  rw [← exists_forall₂_iff]
  exact exists_congr fun _ => forall₂_eq_iff.symm

theorem exists_textsValue_iff {value : Value} :
    (∃ texts, value = textsValue texts) ↔ IsTexts value := by
  simp only [textsValue, IsTexts, ← exists_map_iff]
  constructor
  · rintro ⟨texts, rfl⟩
    exact ⟨_, rfl, texts, rfl⟩
  · rintro ⟨_, rfl, texts, rfl⟩
    exact ⟨texts, rfl⟩

/-- A position of a bit is a byte. -/
theorem exists_bit_iff {entry : String × Value} :
    (∃ named : String × UInt8, entry = (named.1, .integer named.2.toNat)) ↔
      ∃ number, entry.2 = .integer number ∧ 0 ≤ number ∧ number ≤ 255 := by
  obtain ⟨name, value⟩ := entry
  constructor
  · rintro ⟨named, heq⟩
    cases heq
    have hbit := named.2.toNat_lt
    exact ⟨_, rfl, by omega, by omega⟩
  · rintro ⟨number, rfl, hlow, hhigh⟩
    refine ⟨(name, UInt8.ofNat number.toNat), ?_⟩
    have hnumber : ((UInt8.ofNat number.toNat).toNat : Int) = number := by
      rw [UInt8.toNat_ofNat']
      omega
    simp only [hnumber]

theorem exists_bitsValue_iff {value : Value} : (∃ bits, value = bitsValue bits) ↔ IsBits value := by
  simp only [bitsValue, IsBits, ← exists_bit_iff, ← exists_map_iff]
  constructor
  · rintro ⟨bits, rfl⟩
    exact ⟨_, rfl, bits, rfl⟩
  · rintro ⟨_, rfl, bits, rfl⟩
    exact ⟨bits, rfl⟩

theorem exists_specValue_iff {value : Value} : (∃ spec, value = specValue spec) ↔ IsSpec value := by
  rw [IsSpec, ← exists_textsValue_iff]
  constructor
  · rintro ⟨spec, rfl⟩
    cases spec with
    | mask bits =>
      have hbits := bits.toNat_lt
      exact .inl ⟨_, rfl, by omega, by omega⟩
    | names names => exact .inr ⟨names, rfl⟩
  · rintro (⟨number, rfl, hlow, hhigh⟩ | ⟨names, rfl⟩)
    · refine ⟨.mask (UInt32.ofNat number.toNat), ?_⟩
      have hnumber : ((UInt32.ofNat number.toNat).toNat : Int) = number := by
        rw [UInt32.toNat_ofNat']
        omega
      rw [specValue, hnumber]
    · exact ⟨.names names, rfl⟩

/-- There is a result for a field if there is one for its value. A missing field needs none. -/
theorem exists_fieldOf_iff {α : Type} {reads : Value → α → Prop} (missing : α)
    {field? : Option Value} :
    (∃ result, FieldOf reads missing field? result) ↔
      ∀ value, field? = some value → ∃ result, reads value result := by
  cases field? <;> simp [FieldOf]

theorem exists_specOf_iff {field? : Option Value} :
    (∃ spec, SpecOf field? spec) ↔ ∀ value, field? = some value → IsSpec value := by
  simp only [SpecOf, exists_fieldOf_iff, exists_specValue_iff]

theorem exists_entryOf_iff {value : Value} : (∃ entry, EntryOf value entry) ↔ IsEntry value := by
  constructor
  · rintro ⟨entry, h⟩
    cases h with
    | table hknown hcontract himplementation hprofiles =>
      exact .table hknown ⟨_, hcontract⟩ ⟨_, himplementation⟩ (exists_specOf_iff.mp ⟨_, hprofiles⟩)
    | items hprofiles => exact .items (exists_specOf_iff.mp ⟨_, hprofiles⟩)
  · intro h
    cases h with
    | table hknown hcontract himplementation hprofiles =>
      obtain ⟨contract, hcontract⟩ := hcontract
      obtain ⟨implementation, himplementation⟩ := himplementation
      obtain ⟨spec, hspec⟩ := exists_specOf_iff.mpr hprofiles
      have hentry : EntryOf _ ⟨contract, implementation, spec⟩ :=
        .table hknown hcontract himplementation hspec
      exact ⟨_, hentry⟩
    | items hprofiles =>
      obtain ⟨spec, hspec⟩ := exists_specOf_iff.mpr hprofiles
      exact ⟨_, .items hspec⟩

theorem exists_entriesOf_iff {value : Value} :
    (∃ entries, EntriesOf value entries) ↔
      ∃ items, value = .array items ∧ ∀ item ∈ items, IsEntry item := by
  simp only [EntriesOf, ← exists_entryOf_iff, ← exists_forall₂_iff]
  rw [exists_comm]
  simp only [exists_and_left]

theorem exists_carries_iff {table : Table} :
    (∃ manifest : Manifest, manifest.Carries table) ↔ Conforms table := by
  constructor
  · rintro ⟨manifest, hknown, hprofiles, hactive, hbindings⟩
    have hbits := (exists_fieldOf_iff []).mp ⟨_, hprofiles⟩
    have htexts := (exists_fieldOf_iff []).mp ⟨_, hactive⟩
    have hentries := (exists_fieldOf_iff []).mp ⟨_, hbindings⟩
    exact ⟨hknown, fun value h => exists_bitsValue_iff.mp (hbits value h),
      fun value h => exists_textsValue_iff.mp (htexts value h),
      fun value h => exists_entriesOf_iff.mp (hentries value h)⟩
  · rintro ⟨hknown, hbits, htexts, hentries⟩
    obtain ⟨profiles, hprofiles⟩ := (exists_fieldOf_iff []).mpr
      fun value h => exists_bitsValue_iff.mpr (hbits value h)
    obtain ⟨active, hactive⟩ := (exists_fieldOf_iff []).mpr
      fun value h => exists_textsValue_iff.mpr (htexts value h)
    obtain ⟨bindings, hbindings⟩ := (exists_fieldOf_iff []).mpr
      fun value h => exists_entriesOf_iff.mpr (hentries value h)
    exact ⟨⟨profiles, active, bindings⟩, hknown, hprofiles, hactive, hbindings⟩

/-! ## The schema -/

theorem parse_eq_ok_iff {text : String} {table : Table} (h : Toml.parse? text = some table)
    {manifest : Manifest} : parse text = .ok manifest ↔ ofTable table = .ok manifest := by
  simp only [parse, h]
  cases ofTable table <;> simp [Except.mapError]

/-- Of the trees whose tables are in order, those in shape are decoded. -/
theorem decodes_iff_conforms {table : Table} (h : (Value.table table).Ordered) :
    (∃ manifest, ofTable table = .ok manifest) ↔ Conforms table := by
  rw [← exists_carries_iff]
  exact exists_congr fun _ => ofTable_eq_ok_iff h

/-- Of the trees whose tables are in order, wherever they come from, those in shape are manifests,
and so it is with the documents that stand for a tree. A manifest carries what its tree says, and
nothing that it does not say. -/
theorem parses_iff_conforms :
    (∀ table : Table, (Value.table table).Ordered →
        ((∃ manifest, ofTable table = .ok manifest) ↔ Conforms table) ∧
          ∀ manifest, ofTable table = .ok manifest ↔ manifest.Carries table) ∧
      ∀ (text : String) (table : Table), Toml.parse? text = some table →
        ((∃ manifest, parse text = .ok manifest) ↔ Conforms table) ∧
          ∀ manifest, parse text = .ok manifest ↔ manifest.Carries table := by
  constructor
  · intro table hordered
    exact ⟨decodes_iff_conforms hordered, fun manifest => ofTable_eq_ok_iff hordered⟩
  · intro text table htable
    have hordered : (Value.table table).Ordered := Toml.ordered_parse htable
    constructor
    · rw [← decodes_iff_conforms hordered]
      exact exists_congr fun _ => parse_eq_ok_iff htable
    · intro manifest
      rw [parse_eq_ok_iff htable, ofTable_eq_ok_iff hordered]

/-- Bindings in every form: a sequence that goes on too long, a table without profiles, and one with
names of profiles. -/
def mixedText : String :=
  "active = ['x']\n" ++
    "binding = [['a', 'Q', 9, 0.5], \x7bimplementation = 'S', contract = 'a'\x7d,\n" ++
    "\x7bcontract = 'b', implementation = 'D', profiles = ['x']\x7d]\n" ++
    "[profiles]\nx = 255\nc = 0"

def mixedManifest : Manifest where
  profiles := [("c", 0), ("x", 255)]
  active := ["x"]
  bindings := [⟨"a", "Q", .mask 9⟩, ⟨"a", "S", .mask 0⟩, ⟨"b", "D", .names ["x"]⟩]

/-- A tree that no text was read for: one binding, in the form of a sequence. -/
def plainTable : Table :=
  [("active", .array [.string "x"]),
    ("binding", .array [.array [.string "a", .string "Q", .integer 9]])]

def plainManifest : Manifest where
  active := ["x"]
  bindings := [⟨"a", "Q", .mask 9⟩]

theorem ordered_plainTable : (Value.table plainTable).Ordered := by
  have hkeys : Toml.Ascending plainTable := List.pairwise_pair.mpr (by decide)
  refine .table hkeys fun entry hentry => ?_
  simp only [plainTable, List.mem_cons, List.not_mem_nil, or_false] at hentry
  obtain rfl | rfl := hentry
  · refine .array fun item hitem => ?_
    obtain rfl := List.mem_singleton.mp hitem
    exact .string "x"
  · refine .array fun item hitem => ?_
    obtain rfl := List.mem_singleton.mp hitem
    refine .array fun field hfield => ?_
    simp only [List.mem_cons, List.not_mem_nil, or_false] at hfield
    obtain rfl | rfl | rfl := hfield
    · exact .string "a"
    · exact .string "Q"
    · exact .integer 9

/-- A tree and a document in shape. One bit more than a byte can hold is a document, but no
manifest. -/
theorem parses_iff_conforms_mixed :
    ((Value.table plainTable).Ordered ∧ Conforms plainTable ∧ plainManifest.Carries plainTable) ∧
      (∃ table, Toml.parse? mixedText = some table ∧ Conforms table ∧
        mixedManifest.Carries table ∧ parse mixedText = .ok mixedManifest) ∧
      ∃ table, Toml.parse? "[profiles]\ngpu = 256" = some table ∧ ¬Conforms table := by
  have hplain : ofTable plainTable = .ok plainManifest :=
    eq_ok_of_toOption (by decide +kernel)
  have hmixed : (parse mixedText).toOption = some mixedManifest := by decide +kernel
  have hbeyond : (Toml.parse? "[profiles]\ngpu = 256").isSome = true := by decide +kernel
  have hrefused : (parse "[profiles]\ngpu = 256").toOption = none := by decide +kernel
  have hparsed : parse mixedText = .ok mixedManifest := eq_ok_of_toOption hmixed
  obtain ⟨htrees, htexts⟩ := parses_iff_conforms
  refine ⟨?_, ?_, ?_⟩
  · obtain ⟨hconforms, hcarries⟩ := htrees plainTable ordered_plainTable
    exact ⟨ordered_plainTable, hconforms.mp ⟨_, hplain⟩, (hcarries _).mp hplain⟩
  · cases htable : Toml.parse? mixedText with
    | none =>
      rw [parse, htable] at hparsed
      cases hparsed
    | some table =>
      obtain ⟨hconforms, hcarries⟩ := htexts mixedText table htable
      exact ⟨table, rfl, hconforms.mp ⟨_, hparsed⟩, (hcarries _).mp hparsed, hparsed⟩
  · obtain ⟨table, htable⟩ := Option.isSome_iff_exists.mp hbeyond
    refine ⟨table, htable, fun h => ?_⟩
    obtain ⟨manifest, hparsed⟩ := (htexts _ table htable).1.mpr h
    rw [hparsed] at hrefused
    cases hrefused

end Manifest

end PluginHost
