import PluginHost.Toml.Tree

/-!
# TOML documents

A document is a sequence of statements: headers that open a table or append one to a sequence, and
assignments. `parse?` reads a text of version 1.1 of the format and returns the table it stands for.
-/
namespace PluginHost.Toml

/-- The table that an inline table stands for, or `none` where its keys contradict each other. -/
def inlineTable? (assignments : List Assignment) : Option Value :=
  (Entries.assignAll? assignments []).map fun entries => .table (Node.entryValues entries)

/-- A value in which arrays and inline tables are nested at most `depth` deep. Inside an inline
table the parts of an assignment may stand on different lines. -/
def value? : Nat → Reader Value
  | depth, cs =>
    match cs with
    | '[' :: rest =>
      match depth with
      | 0 => none
      | depth + 1 => do
        let (items, rest) ← items? (value? depth) ']' rest
        return (.array items, rest)
    | '\x7b' :: rest =>
      match depth with
      | 0 => none
      | depth + 1 => do
        let (assignments, rest) ← items? (assignment? skipTrivia? (value? depth)) '\x7d' rest
        return (← inlineTable? assignments, rest)
    | cs =>
      match string? cs with
      | some (text, rest) => some (.string (String.ofList text), rest)
      | none => scalar? cs

/-- A statement of a document. -/
inductive Statement where
  | openTable (path : List String) (key : String)
  | appendTable (path : List String) (key : String)
  /-- Assigns a value in the table that was opened last. -/
  | assign (assignment : Assignment)
deriving Repr

/-- A header of a table, from behind its opening bracket. -/
def tableHeader? : Reader Statement := fun cs => do
  let ((path, key), rest) ← key? (cs.dropWhile isBlank)
  match rest.dropWhile isBlank with
  | ']' :: rest => return (.openTable path key, rest)
  | _ => none

/-- A header that appends a table, from behind its opening brackets. -/
def sequenceHeader? : Reader Statement := fun cs => do
  let ((path, key), rest) ← key? (cs.dropWhile isBlank)
  match rest.dropWhile isBlank with
  | ']' :: ']' :: rest => return (.appendTable path key, rest)
  | _ => none

/-- A statement at the start of these characters. The key, the equals sign and the start of the
value of an assignment stand on one line. -/
def statement? : Reader Statement
  | '[' :: '[' :: rest => sequenceHeader? rest
  | '[' :: rest => tableHeader? rest
  | cs => do
    let (assignment, rest) ← assignment? skipBlanks? (value? maxDepth) cs
    return (.assign assignment, rest)

/-- The statements of a document, each on lines of its own. -/
def statements? (cs : List Char) : Option (List Statement) :=
  match skipTrivia? cs with
  | none => none
  | some [] => some []
  | some start => do
    let (statement, rest) ← statement? start
    let next ← endLine? rest
    if next.length < cs.length then
      return statement :: (← statements? next)
    else none
termination_by cs.length

/-- A document of which some statements have been carried out. -/
structure Draft where
  root : Entries := []
  /-- The path to the table that was opened last. -/
  current : List String := []

namespace Draft

/-- The draft after one more statement, or `none` where the statement contradicts earlier ones. -/
def add? (draft : Draft) : Statement → Option Draft
  | .openTable path key => do
    return ⟨← draft.root.modifyAt? (Entries.openTable? key) path, path ++ [key]⟩
  | .appendTable path key => do
    return ⟨← draft.root.modifyAt? (Entries.appendTable? key) path, path ++ [key]⟩
  | .assign ⟨path, key, value⟩ => do
    let root ← draft.root.modifyAt? (Entries.assign? key value path) draft.current
    return { draft with root := root }

end Draft

/-- The characters of a text, less a byte order mark at its start. -/
def withoutMark (text : String) : List Char :=
  match text.toList with
  | '\uFEFF' :: rest => rest
  | cs => cs

/-- The table that a text stands for, or `none` where the text is not a document. -/
def parse? (text : String) : Option Table := do
  let statements ← statements? (withoutMark text)
  let draft ← statements.foldlM Draft.add? {}
  return Node.entryValues draft.root

end PluginHost.Toml
