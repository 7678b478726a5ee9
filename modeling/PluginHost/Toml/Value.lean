/-!
# Values of a TOML document

The value tree that a document stands for. A table keeps its keys in ascending order of code points,
which is also the order of their UTF-8 bytes.
-/
namespace PluginHost.Toml

/-- A float as it is written, before it is rounded to a machine format. -/
inductive FloatLiteral where
  /-- The number `digits * 10 ^ exponent`, with a sign that zero has too. -/
  | decimal (negative : Bool) (digits : Nat) (exponent : Int)
  | infinity (negative : Bool)
  | nan
deriving DecidableEq, Repr

/-- A day of the calendar. -/
structure Date where
  year : Nat
  /-- The month, from 1 to 12. -/
  month : Nat
  /-- The day of the month, from 1. -/
  day : Nat
deriving DecidableEq, Repr

/-- A time of day. -/
structure Time where
  hour : Nat
  minute : Nat
  /-- The second, which need not be written. -/
  second : Option Nat := none
  /-- The fraction of the second in nanoseconds, if one is written. -/
  nanosecond : Option Nat := none
deriving DecidableEq, Repr

/-- The distance of a local time from universal time. -/
inductive Offset where
  | zulu
  /-- So many minutes ahead of universal time. -/
  | minutes (ahead : Int)
deriving DecidableEq, Repr

/-- A moment, a day or a time of day. -/
inductive DateTime where
  /-- A moment: day and time at an offset. -/
  | instant (date : Date) (time : Time) (offset : Offset)
  | localDateTime (date : Date) (time : Time)
  | localDate (date : Date)
  | localTime (time : Time)
deriving DecidableEq, Repr

/-- A value. -/
inductive Value where
  | string (text : String)
  | integer (number : Int)
  /-- An integer in form whose characters are no digits of its base. It stands for no number. -/
  | unreadableInteger
  | float (literal : FloatLiteral)
  | boolean (truth : Bool)
  /-- A date, a time, or both. -/
  | dateTime (moment : DateTime)
  | array (items : List Value)
  /-- A table from keys to values, in ascending order of keys. -/
  | table (entries : List (String × Value))
deriving Repr

/-- The content of a table, in ascending order of keys. -/
abbrev Table := List (String × Value)

end PluginHost.Toml
