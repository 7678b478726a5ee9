import PluginHost.Numeric.Numeral
import PluginHost.Toml.Value

/-!
# Dates and times

Reading and writing dates and times. A date is `YYYY-MM-DD`, a time `HH:MM` with optional seconds
and fraction, and a letter `T` or one blank stands between the two.
-/
namespace PluginHost.Toml

def twoDigits? (a b : Char) : Option Nat := Numeric.ofDigits? 10 [a, b]

/-- Whether the year has a 29th of February. -/
def isLeapYear (year : Nat) : Bool := year % 4 = 0 && (year % 100 != 0 || year % 400 = 0)

/-- The number of days of a month. -/
def daysIn (year month : Nat) : Nat :=
  if month = 2 then (if isLeapYear year then 29 else 28)
  else if month = 4 ∨ month = 6 ∨ month = 9 ∨ month = 11 then 30
  else 31

/-- A day of the calendar at the start of these characters, and what follows it. -/
def date? : List Char → Option (Date × List Char)
  | y₁ :: y₂ :: y₃ :: y₄ :: '-' :: m₁ :: m₂ :: '-' :: d₁ :: d₂ :: rest => do
    let year ← Numeric.ofDigits? 10 [y₁, y₂, y₃, y₄]
    let month ← twoDigits? m₁ m₂
    let day ← twoDigits? d₁ d₂
    guard (1 ≤ month ∧ month ≤ 12 ∧ 1 ≤ day ∧ day ≤ daysIn year month)
    return (⟨year, month, day⟩, rest)
  | _ => none

/-- The nanoseconds of a decimal fraction of a second. Digits after the ninth are dropped. -/
def nanoseconds? (digits : List Char) : Option Nat := do
  let kept := digits.take 9
  return (← Numeric.ofDigits? 10 kept) * Nat.pow 10 (9 - kept.length)

/-- The fraction of a second at the start of these characters, if there is one. -/
def fraction? : List Char → Option (Option Nat × List Char)
  | '.' :: rest => do
    let digits := rest.takeWhile Char.isDigit
    return (some (← nanoseconds? digits), rest.dropWhile Char.isDigit)
  | rest => some (none, rest)

/-- The seconds at the start of these characters, if there are any. A minute may have a leap
second. -/
def seconds? : List Char → Option (Option Nat × Option Nat × List Char)
  | ':' :: s₁ :: s₂ :: rest => do
    let second ← twoDigits? s₁ s₂
    guard (second ≤ 60)
    let (nanosecond, rest) ← fraction? rest
    return (some second, nanosecond, rest)
  | ':' :: _ => none
  | rest => some (none, none, rest)

/-- A time of day at the start of these characters, and what follows it. -/
def time? : List Char → Option (Time × List Char)
  | h₁ :: h₂ :: ':' :: m₁ :: m₂ :: rest => do
    let hour ← twoDigits? h₁ h₂
    let minute ← twoDigits? m₁ m₂
    guard (hour ≤ 23 ∧ minute ≤ 59)
    let (second, nanosecond, rest) ← seconds? rest
    return (⟨hour, minute, second, nanosecond⟩, rest)
  | _ => none

def offset? : List Char → Option Offset
  | ['Z'] | ['z'] => some .zulu
  | [sign, h₁, h₂, ':', m₁, m₂] => do
    guard (sign = '+' ∨ sign = '-')
    let hours ← twoDigits? h₁ h₂
    let minutes ← twoDigits? m₁ m₂
    guard (hours ≤ 23 ∧ minutes ≤ 59)
    let distance : Int := hours * 60 + minutes
    return .minutes (if sign = '-' then -distance else distance)
  | _ => none

/-- Whether a character may stand between a date and a time. -/
def isDateTimeSeparator (c : Char) : Bool := c = 'T' || c = 't' || c = ' '

/-- The date, time or both that these characters are. -/
def dateTime? (cs : List Char) : Option DateTime :=
  match date? cs with
  | some (date, []) => some (.localDate date)
  | some (date, separator :: rest) => do
    guard (isDateTimeSeparator separator)
    let (time, rest) ← time? rest
    if rest.isEmpty then return .localDateTime date time
    else return .instant date time (← offset? rest)
  | none => do
    let (time, rest) ← time? cs
    guard rest.isEmpty
    return .localTime time

/-- A number in decimal with at least `width` digits. -/
def paddedDigits (width n : Nat) : List Char :=
  let digits := Numeric.decimalDigits n
  List.replicate (width - digits.length) '0' ++ digits

/-- A fraction of a second: nine digits without the zeros at their end, but at least one. -/
def fractionDigits (nanosecond : Nat) : List Char :=
  match (paddedDigits 9 nanosecond).reverse.dropWhile (· == '0') with
  | [] => ['0']
  | digits => digits.reverse

namespace Date

def toChars (date : Date) : List Char :=
  paddedDigits 4 date.year ++ '-' :: paddedDigits 2 date.month ++ '-' :: paddedDigits 2 date.day

end Date

namespace Time

def toChars (time : Time) : List Char :=
  paddedDigits 2 time.hour ++ ':' :: paddedDigits 2 time.minute ++
    (match time.second with
      | some second => ':' :: paddedDigits 2 second
      | none => []) ++
    (match time.nanosecond with
      | some nanosecond => '.' :: fractionDigits nanosecond
      | none => [])

end Time

namespace Offset

def toChars : Offset → List Char
  | zulu => ['Z']
  | minutes ahead =>
    (if ahead < 0 then '-' else '+') :: paddedDigits 2 (ahead.natAbs / 60) ++
      ':' :: paddedDigits 2 (ahead.natAbs % 60)

end Offset

namespace DateTime

/-- The characters of a date, a time or both, with `T` between the two. -/
def toChars : DateTime → List Char
  | instant date time offset => date.toChars ++ 'T' :: time.toChars ++ offset.toChars
  | localDateTime date time => date.toChars ++ 'T' :: time.toChars
  | localDate date => date.toChars
  | localTime time => time.toChars

/-- The text of a date, a time or both. -/
def text (moment : DateTime) : String := String.ofList moment.toChars

end DateTime

end PluginHost.Toml
