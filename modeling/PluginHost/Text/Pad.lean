/-!
# Text in a field

A field cuts a text to a number of characters and then fills it up to a width. Characters are
Unicode scalar values.
-/
namespace PluginHost.Text

/-- Where a short text stands in its field. -/
inductive Alignment where
  | left
  | right
  /-- In the middle; of an odd number of fill characters the extra one follows the text. -/
  | center
deriving DecidableEq, Repr

/-- The shape of a field. -/
structure Field where
  alignment : Alignment := .left
  fill : Char := ' '
  /-- The least number of characters, if there is one. -/
  width : Nat := 0
  /-- The most characters of the text that are kept, if there is a limit. -/
  limit : Option Nat := none
deriving DecidableEq, Repr

namespace Field

/-- The number of fill characters before a text that leaves `gap` characters free. -/
def before (field : Field) (gap : Nat) : Nat :=
  match field.alignment with
  | .left => 0
  | .right => gap
  | .center => gap / 2

/-- The characters of the field that holds these characters. -/
def layout (field : Field) (text : List Char) : List Char :=
  let kept := match field.limit with
    | none => text
    | some most => text.take most
  let gap := field.width - kept.length
  let front := field.before gap
  List.replicate front field.fill ++ kept ++ List.replicate (gap - front) field.fill

/-- The text of the field that holds this text. -/
def render (field : Field) (text : String) : String := String.ofList (field.layout text.toList)

end Field

/-- The text at the end of a field of this width. -/
def padLeft (width : Nat) (text : String) : String :=
  ({ alignment := .right, width := width } : Field).render text

end PluginHost.Text
