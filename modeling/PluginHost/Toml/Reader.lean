import PluginHost.Toml.Scalar
import PluginHost.Toml.Text

/-!
# Reading the parts of a TOML document

A reader takes a part from the start of the characters and returns it with what follows, or `none`
where the characters do not start with such a part. Arrays and inline tables may be nested to a
fixed depth; the remaining depth is what the recursion runs on.
-/
namespace PluginHost.Toml

/-- Takes a part from the start of the characters. -/
abbrev Reader (α : Type) := List Char → Option (α × List Char)

/-- The characters from the end of the line on, or `none` where a comment holds a character that it
may not hold. A carriage return ends a line only as part of a newline. -/
def skipComment? : List Char → Option (List Char)
  | [] => some []
  | '\n' :: rest => some ('\n' :: rest)
  | '\r' :: '\n' :: rest => some ('\r' :: '\n' :: rest)
  | c :: rest => if isForbidden c then none else skipComment? rest

/-- The characters after the end of the line that starts here, which holds at most blanks and a
comment. -/
def endLine? (cs : List Char) : Option (List Char) := do
  let rest ← match cs.dropWhile isBlank with
    | '#' :: rest => skipComment? rest
    | rest => some rest
  match rest with
  | [] => some []
  | '\n' :: rest => some rest
  | '\r' :: '\n' :: rest => some rest
  | _ => none

/-- The characters after blanks, newlines and comments. The flag says whether a comment has been
opened. -/
def skipTriviaFrom? : Bool → List Char → Option (List Char)
  | _, [] => some []
  | _, '\n' :: rest => skipTriviaFrom? false rest
  | _, '\r' :: '\n' :: rest => skipTriviaFrom? false rest
  | true, c :: rest => if isForbidden c then none else skipTriviaFrom? true rest
  | false, c :: rest =>
    if c = '#' then skipTriviaFrom? true rest
    else if isBlank c then skipTriviaFrom? false rest
    else some (c :: rest)

/-- The characters after blanks, newlines and comments. -/
def skipTrivia? (cs : List Char) : Option (List Char) := skipTriviaFrom? false cs

/-- The characters after blanks. There is always such a rest. -/
def skipBlanks? (cs : List Char) : Option (List Char) := some (cs.dropWhile isBlank)

/-- Whether a character may occur in a key without quotes. -/
def isKeyChar (c : Char) : Bool := c.isAlphanum || c = '_' || c = '-'

/-- One part of a key: a run of characters without quotes, or a string on one line. -/
def simpleKey? (cs : List Char) : Option (String × List Char) :=
  match lineString? cs with
  | some (text, rest) => some (String.ofList text, rest)
  | none =>
    let run := cs.takeWhile isKeyChar
    if run.isEmpty then none else some (String.ofList run, cs.dropWhile isKeyChar)

/-- How many parts a key may have, and how deep arrays and inline tables may be nested. -/
def maxDepth : Nat := 80

/-- Parts of a key joined by dots, with blanks around the dots. The parts before the last one are
returned first. -/
def keyParts? (cs : List Char) : Option ((List String × String) × List Char) := do
  let (part, rest) ← simpleKey? cs
  match rest.dropWhile isBlank with
  | '.' :: rest =>
    let next := rest.dropWhile isBlank
    if next.length < cs.length then
      let ((path, last), rest) ← keyParts? next
      return ((part :: path, last), rest)
    else none
  | _ => return (([], part), rest)
termination_by cs.length

/-- A key: at most `maxDepth` parts joined by dots. -/
def key? (cs : List Char) : Option ((List String × String) × List Char) := do
  let ((path, last), rest) ← keyParts? cs
  guard (path.length < maxDepth)
  return ((path, last), rest)

/-- An assignment of a value to a key. -/
structure Assignment where
  /-- The parts of the key before the last one. -/
  path : List String
  key : String
  value : Value
deriving Repr

/-- An assignment. Before and after its equals sign stands what `skipGap?` skips. -/
def assignment? (skipGap? : List Char → Option (List Char)) (value : Reader Value) :
    Reader Assignment := fun cs => do
  let ((path, key), rest) ← key? cs
  match ← skipGap? rest with
  | '=' :: rest =>
    let (assigned, rest) ← value (← skipGap? rest)
    return (⟨path, key, assigned⟩, rest)
  | _ => none

/-- Items up to the closing character, from behind the opening one. Items are separated by commas,
and one more comma may follow the last. Blanks, newlines and comments stand anywhere between. -/
def items? {α : Type} (item : Reader α) (close : Char) (cs : List Char) :
    Option (List α × List Char) := do
  match ← skipTrivia? cs with
  | [] => none
  | c :: start =>
    if c = close then return ([], start)
    else
      let (first, rest) ← item (c :: start)
      match ← skipTrivia? rest with
      | [] => none
      | c :: rest =>
        if c = close then return ([first], rest)
        else if c = ',' ∧ rest.length < cs.length then
          let (others, rest) ← items? item close rest
          return (first :: others, rest)
        else none
termination_by cs.length

end PluginHost.Toml
