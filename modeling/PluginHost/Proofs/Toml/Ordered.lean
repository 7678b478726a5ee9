import Mathlib.Data.Option.Basic
import PluginHost.Toml.Document

/-!
# Tables in order

However a document mixes headers, dotted keys and inline tables, every table that comes of it holds
its keys in ascending order, each of them once. Whatever changes a table while a document is read
keeps that up, and so does every value that is read on the way.
-/
namespace PluginHost.Toml

/-- The keys ascend. So none occurs twice. -/
def Ascending {α : Type} (entries : List (String × α)) : Prop :=
  (entries.map (·.1)).Pairwise (· < ·)

/-- Every table in the value is in order, at any depth. -/
inductive Value.Ordered : Value → Prop
  | string (text) : Ordered (.string text)
  | integer (number) : Ordered (.integer number)
  | unreadableInteger : Ordered .unreadableInteger
  | float (literal) : Ordered (.float literal)
  | boolean (truth) : Ordered (.boolean truth)
  | dateTime (moment) : Ordered (.dateTime moment)
  | array {items} (hitems : ∀ item ∈ items, Ordered item) : Ordered (.array items)
  | table {entries} (hkeys : Ascending entries) (hvalues : ∀ entry ∈ entries, Ordered entry.2) :
      Ordered (.table entries)

/-- Every table in the node is in order, at any depth. -/
inductive Node.Ordered : Node → Prop
  | value {assigned} (h : assigned.Ordered) : Ordered (.value assigned)
  | table {kind entries} (hkeys : Ascending entries)
      (hnodes : ∀ entry ∈ entries, Ordered entry.2) : Ordered (.table kind entries)
  | tables {newest earlier} (hkeys : ∀ entries ∈ newest :: earlier, Ascending entries)
      (hnodes : ∀ entries ∈ newest :: earlier, ∀ entry ∈ entries, Ordered entry.2) :
      Ordered (.tables newest earlier)

/-! ## From nodes to values -/

namespace Node

theorem entryValues_eq (entries : List (String × Node)) :
    entryValues entries = entries.map fun entry => (entry.1, entry.2.toValue) := by
  induction entries with
  | nil => rfl
  | cons entry rest ih => rw [entryValues, ih, List.map_cons]

theorem tableValues_eq (earlier : List (List (String × Node))) (later : List Value) :
    tableValues earlier later =
      (earlier.map fun entries => .table (entryValues entries)).reverse ++ later := by
  induction earlier generalizing later with
  | nil => rfl
  | cons entries earlier ih => simp [tableValues, ih]

theorem ascending_entryValues {entries : List (String × Node)} (h : Ascending entries) :
    Ascending (entryValues entries) := by
  rw [Ascending, entryValues_eq, List.map_map]
  exact h

theorem Ordered.toValue {node : Node} (h : node.Ordered) : node.toValue.Ordered := by
  have hentries {entries : List (String × Node)} (hkeys : Ascending entries)
      (hvalues : ∀ entry ∈ entries, entry.2.toValue.Ordered) :
      (Value.table (entryValues entries)).Ordered := by
    refine .table (ascending_entryValues hkeys) fun entry hentry => ?_
    rw [entryValues_eq] at hentry
    obtain ⟨old, hold, rfl⟩ := List.mem_map.mp hentry
    exact hvalues old hold
  induction h with
  | value h => rwa [Node.toValue]
  | table hkeys _ ih =>
    rw [Node.toValue]
    exact hentries hkeys ih
  | @tables newest earlier hkeys _ ih =>
    rw [Node.toValue, tableValues_eq]
    refine .array fun item hitem => ?_
    obtain ⟨entries, hmem, rfl⟩ : ∃ entries ∈ newest :: earlier,
        .table (entryValues entries) = item := by
      simpa [or_comm, eq_comm] using hitem
    exact hentries (hkeys entries hmem) (ih entries hmem)

end Node

/-! ## Changing tables -/

/-- Steps that each keep a property keep it together. -/
theorem foldlM_keeps {α β : Type} {P : β → Prop} {step : β → α → Option β} {items : List α}
    {start after : β} (hstart : P start)
    (hstep : ∀ item ∈ items, ∀ before next, P before → step before item = some next → P next)
    (h : items.foldlM step start = some after) : P after := by
  induction items generalizing start with
  | nil =>
    cases h
    exact hstart
  | cons item items ih =>
    rw [List.foldlM_cons] at h
    obtain ⟨next, hnext, h⟩ := Option.bind_eq_some_iff.mp h
    obtain ⟨hfirst, hrest⟩ := List.forall_mem_cons.mp hstep
    exact ih (hfirst _ _ hstart hnext) hrest h

namespace Entries

/-- The entries are in order, and so is every table below them. -/
structure Ordered (entries : Entries) : Prop where
  keys : Ascending entries
  nodes : ∀ entry ∈ entries, entry.2.Ordered

theorem Ordered.nil : Ordered [] := ⟨List.Pairwise.nil, by simp⟩

variable {entries : Entries} {key : String} {node : Node}

theorem mem_of_find? (h : entries.find? key = some node) : (key, node) ∈ entries := by
  induction entries with
  | nil => cases h
  | cons entry rest ih =>
    obtain ⟨name, old⟩ := entry
    rw [find?] at h
    split at h
    · rename_i hname
      cases h
      rw [hname]
      exact List.mem_cons_self
    · exact List.mem_cons_of_mem _ (ih h)

theorem mem_insert {entry : String × Node} (h : entry ∈ entries.insert key node) :
    entry = (key, node) ∨ entry ∈ entries := by
  induction entries with
  | nil => exact .inl (List.mem_singleton.mp h)
  | cons first rest ih =>
    obtain ⟨name, old⟩ := first
    rw [insert] at h
    split at h
    · exact (List.mem_cons.mp h).imp_right (List.mem_cons_of_mem _)
    · split at h
      · exact List.mem_cons.mp h
      · rcases List.mem_cons.mp h with rfl | h
        · exact .inr List.mem_cons_self
        · exact (ih h).imp_right (List.mem_cons_of_mem _)

theorem ascending_insert (h : Ascending entries) (key : String) (node : Node) :
    Ascending (entries.insert key node) := by
  induction entries with
  | nil => exact List.pairwise_singleton ..
  | cons first rest ih =>
    obtain ⟨name, old⟩ := first
    obtain ⟨hname, hrest⟩ := List.pairwise_cons.mp h
    rw [insert]
    split
    · rename_i heq
      exact heq ▸ h
    · rename_i hne
      split
      · rename_i hlt
        refine List.pairwise_cons.mpr ⟨fun other hother => ?_, h⟩
        rcases List.mem_cons.mp hother with rfl | hother
        · exact hlt
        · exact String.lt_trans hlt (hname other hother)
      · rename_i hnot
        have hlt : name < key := Std.lt_of_le_of_ne (String.not_lt.mp hnot) hne
        refine List.pairwise_cons.mpr ⟨fun other hother => ?_, ih hrest⟩
        obtain ⟨entry, hentry, rfl⟩ := List.mem_map.mp hother
        rcases mem_insert hentry with rfl | hentry
        · exact hlt
        · exact hname _ (List.mem_map.mpr ⟨entry, hentry, rfl⟩)

namespace Ordered

theorem insert (h : entries.Ordered) (hnode : node.Ordered) :
    (entries.insert key node).Ordered := by
  refine ⟨ascending_insert h.keys key node, fun entry hentry => ?_⟩
  rcases mem_insert hentry with rfl | hentry
  · exact hnode
  · exact h.nodes entry hentry

theorem find? (h : entries.Ordered) (hfound : entries.find? key = some node) : node.Ordered :=
  h.nodes _ (mem_of_find? hfound)

end Ordered

theorem ordered_table_iff {kind : TableKind} :
    (Node.table kind entries).Ordered ↔ entries.Ordered := by
  refine ⟨fun h => ?_, fun h => .table h.keys h.nodes⟩
  cases h with
  | table hkeys hnodes => exact ⟨hkeys, hnodes⟩

theorem ordered_tables_iff {newest : Entries} {earlier : List Entries} :
    (Node.tables newest earlier).Ordered ↔ ∀ entries ∈ newest :: earlier, entries.Ordered := by
  refine ⟨fun h => ?_, fun h => .tables (fun entries hmem => (h entries hmem).keys)
    fun entries hmem => (h entries hmem).nodes⟩
  cases h with
  | tables hkeys hnodes => exact fun entries hmem => ⟨hkeys entries hmem, hnodes entries hmem⟩

namespace Ordered

variable {inner newest : Entries} {earlier : List Entries} {kind : TableKind}

/-- A table that is found below is in order. -/
theorem below (h : entries.Ordered) (hfound : entries.find? key = some (.table kind inner)) :
    inner.Ordered :=
  ordered_table_iff.mp (h.find? hfound)

theorem belowNewest (h : entries.Ordered)
    (hfound : entries.find? key = some (.tables newest earlier)) : newest.Ordered :=
  ordered_tables_iff.mp (h.find? hfound) newest List.mem_cons_self

theorem insertTable (h : entries.Ordered) (hinner : inner.Ordered) :
    (entries.insert key (.table kind inner)).Ordered :=
  h.insert (ordered_table_iff.mpr hinner)

/-- A table takes the place of the newest of a sequence. -/
theorem insertNewest (h : entries.Ordered)
    (hfound : entries.find? key = some (.tables newest earlier)) (hinner : inner.Ordered) :
    (entries.insert key (.tables inner earlier)).Ordered := by
  have hold := ordered_tables_iff.mp (h.find? hfound)
  exact h.insert (ordered_tables_iff.mpr
    (List.forall_mem_cons.mpr ⟨hinner, fun other hother => hold other (by simp [hother])⟩))

end Ordered

/-- The change leaves tables in order. -/
def Keeps (change : Entries → Option Entries) : Prop :=
  ∀ entries after, entries.Ordered → change entries = some after → after.Ordered

theorem keeps_openTable (key : String) : Keeps (openTable? key) := by
  intro entries after h hafter
  rw [openTable?] at hafter
  split at hafter
  · cases hafter
    exact h.insertTable .nil
  · rename_i hfound
    cases hafter
    exact h.insertTable (h.below hfound)
  · cases hafter

theorem keeps_appendTable (key : String) : Keeps (appendTable? key) := by
  intro entries after h hafter
  rw [appendTable?] at hafter
  split at hafter
  · cases hafter
    exact h.insert (ordered_tables_iff.mpr (by simp [Ordered.nil]))
  · rename_i newest earlier hfound
    cases hafter
    have hold := ordered_tables_iff.mp (h.find? hfound)
    exact h.insert (ordered_tables_iff.mpr (List.forall_mem_cons.mpr ⟨.nil, hold⟩))
  · cases hafter

theorem keeps_modifyAt {change : Entries → Option Entries} (hchange : Keeps change)
    (path : List String) : Keeps (modifyAt? change path) := by
  induction path with
  | nil => exact hchange
  | cons part path ih =>
    intro entries after h hafter
    rw [modifyAt?] at hafter
    split at hafter
    · obtain ⟨inner, hinner, heq⟩ := Option.bind_eq_some_iff.mp hafter
      cases heq
      exact h.insertTable (ih _ _ .nil hinner)
    · rename_i hfound
      obtain ⟨inner, hinner, heq⟩ := Option.bind_eq_some_iff.mp hafter
      cases heq
      exact h.insertTable (ih _ _ (h.below hfound) hinner)
    · rename_i hfound
      obtain ⟨inner, hinner, heq⟩ := Option.bind_eq_some_iff.mp hafter
      cases heq
      exact h.insertNewest hfound (ih _ _ (h.belowNewest hfound) hinner)
    · cases hafter

theorem keeps_assign (key : String) {value : Value} (hvalue : value.Ordered) (path : List String) :
    Keeps (assign? key value path) := by
  induction path with
  | nil =>
    intro entries after h hafter
    rw [assign?, insertNew?] at hafter
    split at hafter
    · cases hafter
      exact h.insert (.value hvalue)
    · cases hafter
  | cons part path ih =>
    intro entries after h hafter
    rw [assign?] at hafter
    split at hafter
    · obtain ⟨inner, hinner, heq⟩ := Option.bind_eq_some_iff.mp hafter
      cases heq
      exact h.insertTable (ih _ _ .nil hinner)
    · rename_i hfound
      obtain ⟨-, -, hrest⟩ := Option.bind_eq_some_iff.mp hafter
      obtain ⟨inner, hinner, heq⟩ := Option.bind_eq_some_iff.mp hrest
      cases heq
      exact h.insertTable (ih _ _ (h.below hfound) hinner)
    · rename_i hfound
      obtain ⟨-, -, hrest⟩ := Option.bind_eq_some_iff.mp hafter
      obtain ⟨inner, hinner, heq⟩ := Option.bind_eq_some_iff.mp hrest
      cases heq
      exact h.insertNewest hfound (ih _ _ (h.belowNewest hfound) hinner)
    · cases hafter

theorem keeps_assignAll {assignments : List Assignment}
    (hvalues : ∀ assignment ∈ assignments, assignment.value.Ordered) :
    Keeps (assignAll? assignments) := by
  intro entries after h hafter
  refine foldlM_keeps h (fun assignment hmem before next hbefore hnext => ?_) hafter
  exact keeps_assign _ (hvalues assignment hmem) _ before next hbefore hnext

end Entries

/-! ## Reading values -/

theorem ordered_entryValues {entries : Entries} (h : entries.Ordered) :
    (Value.table (Node.entryValues entries)).Ordered := by
  have hnode : (Node.table .explicit entries).Ordered := Entries.ordered_table_iff.mpr h
  have hvalue := hnode.toValue
  rwa [Node.toValue] at hvalue

theorem ordered_inlineTable {assignments : List Assignment} {value : Value}
    (hvalues : ∀ assignment ∈ assignments, assignment.value.Ordered)
    (h : inlineTable? assignments = some value) : value.Ordered := by
  obtain ⟨entries, hentries, rfl⟩ := Option.map_eq_some_iff.mp h
  exact ordered_entryValues (Entries.keeps_assignAll hvalues _ _ .nil hentries)

/-- Whatever the reader reads has the property. -/
def Yields {α : Type} (P : α → Prop) (reader : Reader α) : Prop :=
  ∀ cs x rest, reader cs = some (x, rest) → P x

theorem yields_items {α : Type} {P : α → Prop} {item : Reader α} (hitem : Yields P item)
    (close : Char) : Yields (fun items => ∀ x ∈ items, P x) (items? item close) := by
  intro cs
  induction cs using items?.induct with
  | case1 cs ih =>
    intro items rest h
    rw [items?] at h
    obtain ⟨start, -, h⟩ := Option.bind_eq_some_iff.mp h
    split at h
    · cases h
    · split at h
      · cases h
        simp
      · obtain ⟨⟨first, behind⟩, hfirst, h⟩ := Option.bind_eq_some_iff.mp h
        obtain ⟨next, -, h⟩ := Option.bind_eq_some_iff.mp h
        have hone := hitem _ _ _ hfirst
        split at h
        · cases h
        · split at h
          · cases h
            simpa using hone
          · split at h
            · rename_i hcomma
              obtain ⟨⟨others, last⟩, hothers, h⟩ := Option.bind_eq_some_iff.mp h
              cases h
              exact List.forall_mem_cons.mpr ⟨hone, ih _ _ hcomma _ _ hothers⟩
            · cases h

theorem yields_assignment {skipGap? : List Char → Option (List Char)} {value : Reader Value}
    (hvalue : Yields Value.Ordered value) :
    Yields (·.value.Ordered) (assignment? skipGap? value) := by
  intro cs assignment rest h
  obtain ⟨⟨⟨path, key⟩, behind⟩, -, h⟩ := Option.bind_eq_some_iff.mp h
  obtain ⟨next, -, h⟩ := Option.bind_eq_some_iff.mp h
  split at h
  · obtain ⟨start, -, h⟩ := Option.bind_eq_some_iff.mp h
    obtain ⟨⟨assigned, last⟩, hassigned, h⟩ := Option.bind_eq_some_iff.mp h
    cases h
    exact hvalue _ _ _ hassigned
  · cases h

theorem ordered_integerOf (base : Nat) (negative : Bool) (digits : List Char) :
    (integerOf base negative digits).Ordered := by
  rw [integerOf]
  split
  · exact .integer _
  · exact .unreadableInteger

theorem ordered_integer {cs : List Char} {value : Value} (h : integer? cs = some value) :
    value.Ordered := by
  have hprefixed {base : Nat} {digits : List Char}
      (h : prefixedInteger? base digits = some value) : value.Ordered := by
    obtain ⟨-, -, h⟩ := Option.bind_eq_some_iff.mp h
    obtain ⟨-, -, h⟩ := Option.bind_eq_some_iff.mp h
    cases h
    exact ordered_integerOf ..
  rw [integer?.eq_def] at h
  split at h
  · exact hprefixed h
  · exact hprefixed h
  · exact hprefixed h
  · obtain ⟨-, -, h⟩ := Option.bind_eq_some_iff.mp h
    obtain ⟨-, -, h⟩ := Option.bind_eq_some_iff.mp h
    obtain ⟨-, -, h⟩ := Option.bind_eq_some_iff.mp h
    cases h
    exact ordered_integerOf ..

theorem yields_scalar : Yields Value.Ordered scalar? := by
  intro cs value rest h
  obtain ⟨found, hfound, h⟩ := Option.bind_eq_some_iff.mp h
  cases h
  generalize (scalarRun cs).1 = run at hfound
  have hkinds : (boolean? run).map Value.boolean = some value ∨ integer? run = some value ∨
      (float? run).map Value.float = some value ∨
        (dateTime? run).map Value.dateTime = some value := by
    cases hboolean : boolean? run <;> cases hinteger : integer? run <;>
      cases hfloat : float? run <;> simp_all [scalarOf?]
  rcases hkinds with h | h | h | h
  · obtain ⟨truth, -, rfl⟩ := Option.map_eq_some_iff.mp h
    exact .boolean truth
  · exact ordered_integer h
  · obtain ⟨literal, -, rfl⟩ := Option.map_eq_some_iff.mp h
    exact .float literal
  · obtain ⟨moment, -, rfl⟩ := Option.map_eq_some_iff.mp h
    exact .dateTime moment

/-- Every value that is read is in order, by induction on how deep it may be nested. -/
theorem yields_value (depth : Nat) : Yields Value.Ordered (value? depth) := by
  induction depth using Nat.strongRecOn with
  | ind depth ih =>
    intro cs value rest h
    rw [value?.eq_def] at h
    dsimp only at h
    split at h
    · cases depth with
      | zero => cases h
      | succ depth =>
        obtain ⟨⟨items, behind⟩, hitems, h⟩ := Option.bind_eq_some_iff.mp h
        cases h
        exact .array (yields_items (ih depth (Nat.lt_succ_self depth)) _ _ _ _ hitems)
    · cases depth with
      | zero => cases h
      | succ depth =>
        obtain ⟨⟨assignments, behind⟩, hassignments, h⟩ := Option.bind_eq_some_iff.mp h
        obtain ⟨table, htable, h⟩ := Option.bind_eq_some_iff.mp h
        cases h
        have hinner : Yields (·.value.Ordered) (assignment? skipTrivia? (value? depth)) :=
          yields_assignment (ih depth (Nat.lt_succ_self depth))
        exact ordered_inlineTable (yields_items hinner _ _ _ _ hassignments) htable
    · split at h
      · cases h
        exact .string _
      · exact yields_scalar _ _ _ h

/-! ## Reading documents -/

/-- The value that a statement assigns, if it assigns one, is in order. -/
def Statement.Ordered : Statement → Prop
  | .assign assignment => assignment.value.Ordered
  | .openTable .. | .appendTable .. => True

theorem yields_statement : Yields Statement.Ordered statement? := by
  intro cs statement rest h
  rw [statement?.eq_def] at h
  split at h
  · obtain ⟨⟨⟨path, key⟩, behind⟩, -, h⟩ := Option.bind_eq_some_iff.mp h
    dsimp only at h
    split at h
    · cases h
      trivial
    · cases h
  · obtain ⟨⟨⟨path, key⟩, behind⟩, -, h⟩ := Option.bind_eq_some_iff.mp h
    dsimp only at h
    split at h
    · cases h
      trivial
    · cases h
  · obtain ⟨⟨assignment, behind⟩, hassignment, h⟩ := Option.bind_eq_some_iff.mp h
    cases h
    exact yields_assignment (yields_value maxDepth) _ _ _ hassignment

theorem ordered_statements {cs : List Char} {statements : List Statement}
    (h : statements? cs = some statements) : ∀ statement ∈ statements, statement.Ordered := by
  induction cs using statements?.induct generalizing statements with
  | case1 cs hskip =>
    rw [statements?, hskip] at h
    cases h
  | case2 cs hskip =>
    rw [statements?, hskip] at h
    cases h
    simp
  | case3 cs start hstart hskip ih =>
    obtain ⟨c, tail, rfl⟩ := List.exists_cons_of_ne_nil hstart
    rw [statements?, hskip] at h
    dsimp only at h
    obtain ⟨⟨statement, behind⟩, hstatement, h⟩ := Option.bind_eq_some_iff.mp h
    obtain ⟨next, -, h⟩ := Option.bind_eq_some_iff.mp h
    dsimp only at h
    split at h
    · rename_i hshorter
      obtain ⟨others, hothers, h⟩ := Option.bind_eq_some_iff.mp h
      cases h
      exact List.forall_mem_cons.mpr ⟨yields_statement _ _ _ hstatement, ih _ hshorter hothers⟩
    · cases h

/-- Every statement leaves the tables of a document in order. -/
theorem ordered_add {draft after : Draft} (h : draft.root.Ordered) {statement : Statement}
    (hstatement : statement.Ordered) (hafter : draft.add? statement = some after) :
    after.root.Ordered := by
  cases statement with
  | openTable path key =>
    obtain ⟨root, hroot, hafter⟩ := Option.bind_eq_some_iff.mp hafter
    cases hafter
    exact Entries.keeps_modifyAt (Entries.keeps_openTable key) path _ _ h hroot
  | appendTable path key =>
    obtain ⟨root, hroot, hafter⟩ := Option.bind_eq_some_iff.mp hafter
    cases hafter
    exact Entries.keeps_modifyAt (Entries.keeps_appendTable key) path _ _ h hroot
  | assign assignment =>
    obtain ⟨root, hroot, hafter⟩ := Option.bind_eq_some_iff.mp hafter
    cases hafter
    exact Entries.keeps_modifyAt (Entries.keeps_assign _ hstatement _) draft.current _ _ h hroot

/-- Every document stands for a table that is in order at any depth. -/
theorem ordered_parse {text : String} {table : Table} (h : parse? text = some table) :
    (Value.table table).Ordered := by
  obtain ⟨statements, hstatements, h⟩ := Option.bind_eq_some_iff.mp h
  obtain ⟨draft, hdraft, h⟩ := Option.bind_eq_some_iff.mp h
  cases h
  have hroot : draft.root.Ordered := foldlM_keeps (P := (·.root.Ordered)) .nil
    (fun statement hmem before next hbefore =>
      ordered_add hbefore (ordered_statements hstatements statement hmem)) hdraft
  exact ordered_entryValues hroot

end PluginHost.Toml
