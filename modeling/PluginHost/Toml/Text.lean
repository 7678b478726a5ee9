import PluginHost.Numeric.Numeral

/-!
# Quoted strings of a TOML document

Basic strings stand between double quotes and have escapes, literal strings stand between single
quotes and have none. Either kind may be written between three quotes and then spans lines.
-/
namespace PluginHost.Toml

/-- A blank: the space or the tab. -/
def isBlank (c : Char) : Bool := c = ' ' || c = '\t'

/-- Whether a character may not stand in a string or a comment: a control character other than the
tab. -/
def isForbidden (c : Char) : Bool := (c.toNat < 0x20 && c != '\t') || c.toNat = 0x7F

/-- The character of this code point, if it is one. -/
def charOf? (code : Nat) : Option Char :=
  if code.isValidChar then some (Char.ofNat code) else none

/-- The character whose code point is written by exactly `count` hexadecimal digits at the start of
these characters. -/
def codePoint? (count : Nat) (cs : List Char) : Option Char := do
  let digits := cs.take count
  guard (digits.length = count)
  charOf? (← Numeric.ofDigits? 16 digits)

/-- The character that an escape stands for and the number of characters of the escape, without its
backslash. -/
def escape? : List Char → Option (Char × Nat)
  | [] => none
  | letter :: rest =>
    match letter with
    | 'b' => some ('\x08', 1)
    | 't' => some ('\t', 1)
    | 'n' => some ('\n', 1)
    | 'f' => some ('\x0c', 1)
    | 'r' => some ('\r', 1)
    | 'e' => some ('\x1b', 1)
    | '"' => some ('"', 1)
    | '\\' => some ('\\', 1)
    | 'x' => (codePoint? 2 rest).map (·, 3)
    | 'u' => (codePoint? 4 rest).map (·, 5)
    | 'U' => (codePoint? 8 rest).map (·, 9)
    | _ => none

/-- A text and the characters that follow it in the document. -/
abbrev Piece := List Char × List Char

/-- The piece with one more character in front of its text. -/
def Piece.cons (c : Char) (piece : Piece) : Piece := (c :: piece.1, piece.2)

/-- A basic string on one line, from behind its opening quote. -/
def basicText? : List Char → Option Piece
  | [] => none
  | c :: rest =>
    if c = '"' then some ([], rest)
    else if c = '\\' then
      match escape? rest with
      | none => none
      | some (escaped, count) => (basicText? (rest.drop count)).map (Piece.cons escaped)
    else if isForbidden c then none
    else (basicText? rest).map (Piece.cons c)
termination_by cs => cs.length
decreasing_by all_goals simp only [List.length_drop, List.length_cons]; omega

/-- A literal string on one line, from behind its opening quote. -/
def literalText? : List Char → Option Piece
  | [] => none
  | c :: rest =>
    if c = '\'' then some ([], rest)
    else if isForbidden c then none
    else (literalText? rest).map (Piece.cons c)

/-- Where three quotes close a string, up to two more quotes before them belong to its text. These
are the quotes and the rest, from behind the first three quotes. -/
def closing (quote : Char) : List Char → Piece
  | a :: b :: rest =>
    if a = quote then if b = quote then ([quote, quote], rest) else ([quote], b :: rest)
    else ([], a :: b :: rest)
  | [a] => if a = quote then ([quote], []) else ([], [a])
  | [] => ([], [])

/-- Whether a line break that a backslash hides starts here: blanks and then a newline. -/
def startsHiddenBreak (cs : List Char) : Bool :=
  match cs.dropWhile isBlank with
  | '\n' :: _ => true
  | '\r' :: '\n' :: _ => true
  | _ => false

/-- The characters after the blanks and newlines at the start, or `none` where a carriage return is
not part of a newline. -/
def skipBlankLines? : List Char → Option (List Char)
  | '\r' :: '\n' :: rest => skipBlankLines? rest
  | '\r' :: _ => none
  | c :: rest => if isBlank c || c = '\n' then skipBlankLines? rest else some (c :: rest)
  | [] => some []

theorem length_skipBlankLines? {cs rest : List Char} (h : skipBlankLines? cs = some rest) :
    rest.length ≤ cs.length := by
  fun_induction skipBlankLines? cs with
  | case1 r ih => have := ih h; simp only [List.length_cons]; omega
  | case2 => simp at h
  | case3 c r _ _ _ ih => have := ih h; simp only [List.length_cons]; omega
  | case4 => cases h; simp
  | case5 => cases h; simp

/-- A basic string over several lines, from behind its opening quotes and the newline that may
follow them. A backslash at the end of a line hides the line break and all blanks and newlines
after it. -/
def basicLines? : List Char → Option Piece
  | [] => none
  | '"' :: '"' :: '"' :: rest => some (closing '"' rest)
  | '\r' :: '\n' :: rest => (basicLines? rest).map (Piece.cons '\r' ∘ Piece.cons '\n')
  | c :: rest =>
    if c = '\\' then
      if startsHiddenBreak rest then
        match h : skipBlankLines? rest with
        | none => none
        | some next =>
          have := length_skipBlankLines? h
          basicLines? next
      else
        match escape? rest with
        | none => none
        | some (escaped, count) => (basicLines? (rest.drop count)).map (Piece.cons escaped)
    else if isForbidden c && c != '\n' then none
    else (basicLines? rest).map (Piece.cons c)
termination_by cs => cs.length
decreasing_by
  all_goals simp only [List.length_drop, List.length_cons]
  all_goals omega

/-- A literal string over several lines, from behind its opening quotes and the newline that may
follow them. -/
def literalLines? : List Char → Option Piece
  | [] => none
  | '\'' :: '\'' :: '\'' :: rest => some (closing '\'' rest)
  | '\r' :: '\n' :: rest => (literalLines? rest).map (Piece.cons '\r' ∘ Piece.cons '\n')
  | c :: rest =>
    if isForbidden c && c != '\n' then none else (literalLines? rest).map (Piece.cons c)

/-- The characters after a newline that directly follows the opening quotes. -/
def skipFirstNewline : List Char → List Char
  | '\n' :: rest => rest
  | '\r' :: '\n' :: rest => rest
  | cs => cs

/-- A string on one line at the start of these characters. -/
def lineString? : List Char → Option Piece
  | '"' :: rest => basicText? rest
  | '\'' :: rest => literalText? rest
  | _ => none

/-- A string of any kind at the start of these characters. -/
def string? : List Char → Option Piece
  | '"' :: '"' :: '"' :: rest => basicLines? (skipFirstNewline rest)
  | '\'' :: '\'' :: '\'' :: rest => literalLines? (skipFirstNewline rest)
  | cs => lineString? cs

end PluginHost.Toml
