import PluginHost.Toml.DateTime
import PluginHost.Toml.Text

/-!
# Scalars without quotes

Truth values, integers, floats, dates and times are runs of characters that need no quotes. A run
goes on to the next character of the document's own punctuation, over blanks too if more of the same
follows them. It is read as a whole: it is exactly one of these kinds, or no scalar at all. A
decimal integer is told by its form: whether the characters behind its first underscore are digits
matters only once its number is asked for.
-/
namespace PluginHost.Toml

def endsScalar (c : Char) : Bool :=
  isBlank c || ['=', ',', '[', ']', '\x7b', '\x7d', '#', '\r', '\n'].contains c

/-- Whether a character may occur in a scalar without quotes wherever it stands. -/
def isScalarChar (c : Char) : Bool := !endsScalar c

/-- Whether a scalar without quotes goes on with these characters where blanks stand before them. -/
def resumesScalar (cs : List Char) : Bool :=
  (cs.dropWhile isBlank).head?.any fun c => isScalarChar c && c != '"' && c != '\''

/-- The characters of a scalar without quotes, and what follows it. Blanks belong to the scalar
where it goes on behind them, as a date goes on with a time. -/
def scalarRun : List Char → Piece
  | [] => ([], [])
  | c :: rest =>
    if isScalarChar c || (isBlank c && resumesScalar rest) then Piece.cons c (scalarRun rest)
    else ([], c :: rest)

/-- Whether a character is a digit below `base`. -/
def isDigitBelow (base : Nat) (c : Char) : Bool := (Numeric.digitBelow? base c).isSome

/-- Whether each underscore stands between two digits. The flag says whether a digit stands before
these characters. -/
def underscoresSeparateFrom (isDigit : Char → Bool) : Bool → List Char → Bool
  | _, [] => true
  | afterDigit, '_' :: rest =>
    afterDigit && rest.head?.any isDigit && underscoresSeparateFrom isDigit false rest
  | _, c :: rest => underscoresSeparateFrom isDigit (isDigit c) rest

def underscoresSeparate (isDigit : Char → Bool) (cs : List Char) : Bool :=
  underscoresSeparateFrom isDigit false cs

def withoutUnderscores (cs : List Char) : List Char := cs.filter (· ≠ '_')

/-- The characters after a sign, and whether the sign is a minus. -/
def splitSign : List Char → Bool × List Char
  | '-' :: rest => (true, rest)
  | '+' :: rest => (false, rest)
  | cs => (false, cs)

def signed (negative : Bool) (n : Nat) : Int := if negative then -(n : Int) else n

/-- The integer that a sign and these characters write, less the underscores. -/
def integerOf (base : Nat) (negative : Bool) (digits : List Char) : Value :=
  match Numeric.ofDigits? base (withoutUnderscores digits) with
  | some n => .integer (signed negative n)
  | none => .unreadableInteger

/-- The integer whose prefix stands for `base` and is followed by these characters: digits and
underscores, if any. -/
def prefixedInteger? (base : Nat) (digits : List Char) : Option Value := do
  guard (digits.all fun c => c = '_' || isDigitBelow base c)
  guard (underscoresSeparate (isDigitBelow base) digits)
  return integerOf base false digits

/-- Whether a character marks the exponent of a float. -/
def isExponentMark (c : Char) : Bool := c = 'e' || c = 'E'

/-- Whether a decimal integer may go on like this behind its first digits: not at all, or from an
underscore on without anything that only a float or a date with a time has. -/
def continuesInteger : List Char → Bool
  | [] => true
  | '_' :: rest => !rest.any fun c => c = '.' || c = ' ' || isExponentMark c
  | _ => false

/-- The decimal integer that these characters are, with an optional sign and without a leading
zero. Underscores may stand between any two digits below sixteen. -/
def decimalInteger? (cs : List Char) : Option Value := do
  let (negative, unsigned) := splitSign cs
  guard (unsigned = ['0'] ∨ (unsigned ≠ [] ∧ unsigned.head? ≠ some '0'))
  guard (continuesInteger (unsigned.dropWhile Char.isDigit))
  -- any hexadecimal digit may stand beside an underscore, as if the base were not known yet
  guard (underscoresSeparate (isDigitBelow 16) cs)
  return integerOf 10 negative unsigned

/-- The integer that these characters are: decimal with an optional sign, or hexadecimal, octal or
binary with a prefix and without a sign. -/
def integer? : List Char → Option Value
  | '0' :: 'x' :: digits => prefixedInteger? 16 digits
  | '0' :: 'o' :: digits => prefixedInteger? 8 digits
  | '0' :: 'b' :: digits => prefixedInteger? 2 digits
  | cs => decimalInteger? cs

/-- The exponent that follows the digits of a float, or zero where there is none. -/
def exponent? : List Char → Option Int
  | [] => some 0
  | mark :: rest => do
    guard (isExponentMark mark)
    let (negative, unsigned) := splitSign rest
    return signed negative (← Numeric.ofDigits? 10 unsigned)

/-- The digits after the point of a float, or none where there is no point. -/
def fractionPart? : List Char → Option (List Char)
  | [] => some []
  | '.' :: digits => if digits.isEmpty then none else some digits
  | _ => none

/-- The float that these characters are: digits without a leading zero and then a fraction, an
exponent or both, with an optional sign and with underscores between digits. -/
def decimalFloat? (cs : List Char) : Option FloatLiteral := do
  let (negative, unsigned) := splitSign cs
  guard (underscoresSeparate Char.isDigit cs)
  let written := withoutUnderscores unsigned
  let mantissa := written.takeWhile fun c => !isExponentMark c
  let whole := mantissa.takeWhile (· ≠ '.')
  let point := mantissa.dropWhile (· ≠ '.')
  let scale := written.dropWhile fun c => !isExponentMark c
  guard (!(point.isEmpty && scale.isEmpty))
  guard (whole.length = 1 ∨ (whole ≠ [] ∧ unsigned.head? ≠ some '0'))
  let fraction ← fractionPart? point
  let exponent ← exponent? scale
  let digits ← Numeric.ofDigits? 10 (whole ++ fraction)
  return .decimal negative digits (exponent - fraction.length)

/-- The float that these characters are: a decimal one, an infinity, or not a number. -/
def float? (cs : List Char) : Option FloatLiteral :=
  let (negative, unsigned) := splitSign cs
  if unsigned = ['i', 'n', 'f'] then some (.infinity negative)
  else if unsigned = ['n', 'a', 'n'] then some .nan
  else decimalFloat? cs

def boolean? (cs : List Char) : Option Bool :=
  if cs = ['t', 'r', 'u', 'e'] then some true
  else if cs = ['f', 'a', 'l', 's', 'e'] then some false
  else none

def scalarOf? (cs : List Char) : Option Value :=
  (boolean? cs).map Value.boolean <|> integer? cs <|>
    (float? cs).map Value.float <|> (dateTime? cs).map Value.dateTime

/-- A scalar without quotes at the start of these characters, and what follows it. -/
def scalar? (cs : List Char) : Option (Value × List Char) := do
  let (run, rest) := scalarRun cs
  return (← scalarOf? run, rest)

end PluginHost.Toml
