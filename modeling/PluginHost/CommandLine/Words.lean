/-!
# Words of a command line

A word is an option or an operand. Options are written by a long name behind two dashes or by a
letter behind one; letters may be joined. The value of an option is written behind it, with or
without an equals sign, or as the next word. A word that starts with a dash is a value only where it
is joined to its option or is the dash alone, and after the word `--` every word is an operand.
-/
namespace PluginHost.CommandLine

/-- The options of all commands. -/
inductive Flag where
  | verbose
  | version
  | manifest
  | profile
  | mask
  | policy
deriving DecidableEq, Repr

namespace Flag

def longName : Flag → String
  | verbose => "verbose"
  | version => "version"
  | manifest => "manifest"
  | profile => "profile"
  | mask => "mask"
  | policy => "policy"

/-- The letter, if the option has one. -/
def letter? : Flag → Option Char
  | verbose => some 'v'
  | version => some 'V'
  | manifest => some 'm'
  | profile | policy => some 'p'
  | mask => none

/-- Whether the option has a value. -/
def takesValue : Flag → Bool
  | verbose | version => false
  | manifest | profile | mask | policy => true

end Flag

/-- The form of one word. -/
inductive Word where
  /-- The word after which there are only operands. -/
  | separator
  /-- A long name, and the value joined to it. -/
  | long (name : String) (value? : Option String)
  /-- Letters, of which one may be followed by its value. -/
  | letters (letters : List Char)
  | operand (text : String)
deriving DecidableEq, Repr

/-- The form of a word. A dash alone is an operand. -/
def Word.ofString (text : String) : Word :=
  match text.toList with
  | ['-', '-'] => .separator
  | '-' :: '-' :: rest =>
    match rest.span (· ≠ '=') with
    | (name, []) => .long (String.ofList name) none
    | (name, _ :: value) => .long (String.ofList name) (some (String.ofList value))
  | '-' :: first :: others => .letters (first :: others)
  | _ => .operand text

/-- Whether a word can be the value of the option before it. -/
def isSeparateValue (text : String) : Bool :=
  match Word.ofString text with
  | .operand _ => true
  | .separator | .long .. | .letters _ => false

/-- What a command line says, piece by piece. -/
inductive Item where
  | flag (option : Flag)
  | value (option : Flag) (text : String)
  | operand (text : String)
deriving DecidableEq, Repr

/-- The items of joined letters, and the option that still needs its value, if the last one does. -/
def itemsOfLetters? (known : List Flag) : List Char → Option (List Item × Option Flag)
  | [] => some ([], none)
  | letter :: letters => do
    let option ← known.find? (·.letter? == some letter)
    if option.takesValue then
      match letters with
      | [] => some ([], some option)
      | '=' :: value | value => some ([.value option (String.ofList value)], none)
    else
      let (items, open?) ← itemsOfLetters? known letters
      some (.flag option :: items, open?)

/-- The items of a command line whose options are among `known`. -/
def items? (known : List Flag) : List String → Option (List Item)
  | [] => some []
  | word :: words =>
    match Word.ofString word with
    | .separator => some (words.map .operand)
    | .operand text => return .operand text :: (← items? known words)
    | .long name joined? => do
      let option ← known.find? (·.longName == name)
      match option.takesValue, joined? with
      | false, none => return .flag option :: (← items? known words)
      | true, some value => return .value option value :: (← items? known words)
      | false, some _ => none
      | true, none =>
        match words with
        | [] => none
        | value :: others =>
          if isSeparateValue value then return .value option value :: (← items? known others)
          else none
    | .letters letters => do
      let (items, open?) ← itemsOfLetters? known letters
      match open? with
      | none => return items ++ (← items? known words)
      | some option =>
        match words with
        | [] => none
        | value :: others =>
          if isSeparateValue value then
            return items ++ .value option value :: (← items? known others)
          else none

/-- The operands among the items, in order. -/
def operands (items : List Item) : List String :=
  items.filterMap fun
    | .operand text => some text
    | .flag _ | .value .. => none

/-- The values given to an option, in order. -/
def valuesOf (option : Flag) (items : List Item) : List String :=
  items.filterMap fun
    | .value given text => if given = option then some text else none
    | .flag _ | .operand _ => none

def timesGiven (option : Flag) (items : List Item) : Nat := items.count (.flag option)

end PluginHost.CommandLine
