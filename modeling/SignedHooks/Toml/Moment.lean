/-
# Dates and times in TOML

A date has a year, a month and a day of the calendar; a time has an hour and a
minute, and may have a second, which may be a leap second, and a fraction of
one. A date may be followed by a time, and both together by the distance from
universal time.

Key definitions: `Toml.date?`, `Toml.time?`, `Toml.offset?`, `Toml.isMoment`.
-/
import SignedHooks.Decimal.Digits

namespace SignedHooks
namespace Toml

/-- The number of exactly `width` digits, and what stands behind them. -/
def digits? (width : Nat) (cs : List Char) : Option (Nat × List Char) :=
  let digits := cs.take width
  if digits.length = width && digits.all Char.isDigit then
    some (Decimal.ofDigits digits, cs.drop width)
  else none

/-- What stands behind a character. -/
def behind? (c : Char) : List Char → Option (List Char)
  | [] => none
  | d :: rest => if d = c then some rest else none

/-- The year has a day more. -/
def isLeap (year : Nat) : Bool :=
  year % 4 = 0 && (year % 100 ≠ 0 || year % 400 = 0)

/-- How many days a month has. -/
def daysIn (year month : Nat) : Nat :=
  if month = 2 then (if isLeap year then 29 else 28)
  else if month = 4 || month = 6 || month = 9 || month = 11 then 30
  else 31

/-- What stands behind a date. -/
def date? (cs : List Char) : Option (List Char) := do
  let (year, cs) ← digits? 4 cs
  let (month, cs) ← digits? 2 (← behind? '-' cs)
  let (day, cs) ← digits? 2 (← behind? '-' cs)
  if 1 ≤ month && month ≤ 12 && 1 ≤ day && day ≤ daysIn year month then some cs else none

/-- What stands behind the fraction of a second, if there is one. -/
def fraction? : List Char → Option (List Char)
  | '.' :: rest =>
    if (rest.head?.any Char.isDigit) then some (rest.dropWhile Char.isDigit) else none
  | cs => some cs

/-- What stands behind the seconds, if there are any. -/
def seconds? : List Char → Option (List Char)
  | ':' :: rest => do
    let (second, cs) ← digits? 2 rest
    if second ≤ 60 then fraction? cs else none
  | cs => some cs

/-- What stands behind a time. -/
def time? (cs : List Char) : Option (List Char) := do
  let (hour, cs) ← digits? 2 cs
  let (minute, cs) ← digits? 2 (← behind? ':' cs)
  if hour ≤ 23 && minute ≤ 59 then seconds? cs else none

/-- What stands behind hours and minutes. -/
def distance? (cs : List Char) : Option (List Char) := do
  let (hour, cs) ← digits? 2 cs
  let (minute, cs) ← digits? 2 (← behind? ':' cs)
  if hour ≤ 23 && minute ≤ 59 then some cs else none

/-- What stands behind the distance from universal time, if there is one. -/
def offset? : List Char → Option (List Char)
  | 'Z' :: rest => some rest
  | 'z' :: rest => some rest
  | '+' :: rest => distance? rest
  | '-' :: rest => distance? rest
  | cs => some cs

/-- A character that may stand between a date and a time. -/
def isDivider (c : Char) : Bool :=
  c == 'T' || c == 't' || c == ' '

/-- The word spells a date, a time or both. -/
def isMoment (cs : List Char) : Bool :=
  match date? cs with
  | some [] => true
  | some (c :: rest) => isDivider c && ((time? rest).bind offset?) == some []
  | none => time? cs == some []

end Toml
end SignedHooks
