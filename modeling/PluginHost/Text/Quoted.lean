import PluginHost.Numeric.Numeral
import PluginHost.Text.Combining
import PluginHost.Text.Unprintable

/-!
# Quoted text

How a name from outside is shown inside a message: between double quotes, on one line, with every
character that a reader could not tell apart written as an escape.
-/
namespace PluginHost.Text

/-- The letter that stands for a character after a backslash, where it has one. -/
def escapeLetter? : Char → Option Char
  | '\x00' => some '0'
  | '\t' => some 't'
  | '\r' => some 'r'
  | '\n' => some 'n'
  | '"' => some '"'
  | '\\' => some '\\'
  | _ => none

/-- Whether a character outside ASCII is shown by its code point: it extends the character before it
or has no printed shape. ASCII control characters belong here too. -/
def isHidden (c : Char) : Bool :=
  if c.toNat < 0x7F then c.toNat < 0x20 else isCombining c || isUnprintable c

def quoteChar (c : Char) : List Char :=
  match escapeLetter? c with
  | some letter => ['\\', letter]
  | none =>
    if isHidden c then '\\' :: 'u' :: '\x7b' :: Numeric.hexDigits c.toNat ++ ['\x7d'] else [c]

def quote (text : String) : String :=
  String.ofList ('"' :: text.toList.flatMap quoteChar ++ ['"'])

end PluginHost.Text
