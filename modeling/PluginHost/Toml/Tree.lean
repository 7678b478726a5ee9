import PluginHost.Toml.Reader

/-!
# Tables under construction

While a document is read, its tables remember how they came about, because that decides what may be
added to them later: a header opens a table once and only while no dotted key has led through it,
dotted keys extend any table that no header has opened, and values are never extended.
-/
namespace PluginHost.Toml

/-- How a table came about. -/
inductive TableKind where
  /-- A header of a deeper table needed it. -/
  | implicit
  /-- A dotted key led through it. -/
  | dotted
  /-- A header opened it. -/
  | explicit
deriving DecidableEq, Repr

/-- What a key stands for while the document is read. -/
inductive Node where
  /-- A value, which is never extended. -/
  | value (value : Value)
  | table (kind : TableKind) (entries : List (String × Node))
  /-- Tables that headers append one by one: the newest and those before it, newest first. -/
  | tables (newest : List (String × Node)) (earlier : List (List (String × Node)))

/-- The content of a table, in ascending order of keys. -/
abbrev Entries := List (String × Node)

namespace Entries

def find? (key : String) : Entries → Option Node
  | [] => none
  | (name, node) :: rest => if name = key then some node else find? key rest

/-- The entries in which the key stands for `node`. A new key goes to its place in the order. -/
def insert (key : String) (node : Node) : Entries → Entries
  | [] => [(key, node)]
  | (name, old) :: rest =>
    if name = key then (key, node) :: rest
    else if key < name then (key, node) :: (name, old) :: rest
    else (name, old) :: insert key node rest

/-- The entries with a new key, or `none` where the key is taken. -/
def insertNew? (key : String) (node : Node) (entries : Entries) : Option Entries :=
  match entries.find? key with
  | none => some (entries.insert key node)
  | some _ => none

/-- Changes the table that the path of a header leads to. Missing tables are created on the way, and
of tables in a sequence the newest is meant. -/
def modifyAt? (change : Entries → Option Entries) : List String → Entries → Option Entries
  | [], entries => change entries
  | part :: path, entries =>
    match entries.find? part with
    | none => do return entries.insert part (.table .implicit (← modifyAt? change path []))
    | some (.table kind inner) => do
      return entries.insert part (.table kind (← modifyAt? change path inner))
    | some (.tables newest earlier) => do
      return entries.insert part (.tables (← modifyAt? change path newest) earlier)
    | some (.value _) => none

/-- Opens the table that a header names. It must be new, or so far only needed by deeper headers. -/
def openTable? (key : String) (entries : Entries) : Option Entries :=
  match entries.find? key with
  | none => some (entries.insert key (.table .explicit []))
  | some (.table .implicit inner) => some (entries.insert key (.table .explicit inner))
  | some _ => none

/-- Appends a table to the sequence that a header names, which must be new or made by such
headers. -/
def appendTable? (key : String) (entries : Entries) : Option Entries :=
  match entries.find? key with
  | none => some (entries.insert key (.tables [] []))
  | some (.tables newest earlier) => some (entries.insert key (.tables [] (newest :: earlier)))
  | some _ => none

/-- Assigns a value to a key below the tables that the parts before it name. None of these tables
may have been opened by a header, and none can be from now on. Tables in a sequence are only led
through: there the newest is meant. -/
def assign? (key : String) (value : Value) : List String → Entries → Option Entries
  | [], entries => entries.insertNew? key (.value value)
  | part :: path, entries =>
    match entries.find? part with
    | none => do return entries.insert part (.table .dotted (← assign? key value path []))
    | some (.table kind inner) => do
      -- dotted keys add nothing to a table that has a header of its own
      guard (kind ≠ .explicit)
      return entries.insert part (.table .dotted (← assign? key value path inner))
    | some (.tables newest earlier) => do
      -- the last part before the key has to name a table, not a sequence
      guard (path ≠ [])
      return entries.insert part (.tables (← assign? key value path newest) earlier)
    | some (.value _) => none

/-- The entries after assignments in order, or `none` where one of them is refused. -/
def assignAll? (assignments : List Assignment) (entries : Entries) : Option Entries :=
  assignments.foldlM (fun entries a => entries.assign? a.key a.value a.path) entries

end Entries

mutual

/-- The value that a node stands for when the document is complete. -/
def Node.toValue : Node → Value
  | .value assigned => assigned
  | .table _ entries => .table (Node.entryValues entries)
  | .tables newest earlier => .array (Node.tableValues earlier [.table (Node.entryValues newest)])

def Node.entryValues : List (String × Node) → Table
  | [] => []
  | (key, node) :: rest => (key, node.toValue) :: Node.entryValues rest

/-- The tables of a sequence, listed newest first, in front of `later`. -/
def Node.tableValues : List (List (String × Node)) → List Value → List Value
  | [], later => later
  | entries :: earlier, later =>
    Node.tableValues earlier (.table (Node.entryValues entries) :: later)

end

end PluginHost.Toml
