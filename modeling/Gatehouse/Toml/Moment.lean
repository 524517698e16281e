import Gatehouse.Text.Numeral
import Gatehouse.Text.Reader

/-!
# Dates and times

A day of the calendar, a time of day, or both with an optional distance from universal
time. A moment is written in one way only, whatever letters it was read with.

## Main definitions

* `Moment`: Days, times, and both.
* `Moment.read`: The moment at the front of a text.
* `Moment.text`: The written form.
-/

namespace Gatehouse

/-- A day of the calendar. -/
structure Day where
  year : Nat
  month : Nat
  day : Nat

/-- A time of day, to the nanosecond. -/
structure Clock where
  hour : Nat
  minute : Nat
  second : Nat
  nano : Nat

/-- A distance from universal time, in minutes. -/
inductive Zone where
  | universal
  | shifted (west : Bool) (minutes : Nat)

/-- A day, a time, or both. -/
inductive Moment where
  | day (day : Day)
  | clock (clock : Clock)
  | both (day : Day) (clock : Clock) (zone : Option Zone)

namespace Moment

open Text

/-- Whether a year has a day more than others. -/
def isLeap (year : Nat) : Bool := year % 4 == 0 && (year % 100 != 0 || year % 400 == 0)

/-- The days of a month. -/
def daysIn (year month : Nat) : Nat :=
  if month = 2 then (if isLeap year then 29 else 28)
  else if [4, 6, 9, 11].contains month then 30
  else 31

/-- A number of a fixed count of digits between two bounds. -/
def figure (digits low high : Nat) : Reader Nat := fun text => do
  let n ← number? 10 (text.take digits)
  if digits ≤ text.length && low ≤ n && n ≤ high then some (n, text.drop digits) else none

/-- The text after a character. -/
def after? (c : Char) : List Char → Option (List Char)
  | d :: rest => if d = c then some rest else none
  | [] => none

/-- A day. -/
def readDay : Reader Day := fun text => do
  let (year, rest) ← figure 4 0 9999 text
  let (month, rest) ← figure 2 1 12 (← after? '-' rest)
  let (date, rest) ← figure 2 1 (daysIn year month) (← after? '-' rest)
  some (⟨year, month, date⟩, rest)

/-- The nanoseconds that the digits of a fraction spell; what is finer does not count. -/
def nanos (digits : List Char) : Option Nat :=
  number? 10 ((digits ++ List.replicate 9 '0').take 9)

/-- A time of day, with a fraction of its second or without. -/
def readClock : Reader Clock := fun text => do
  let (hour, rest) ← figure 2 0 23 text
  let (minute, rest) ← figure 2 0 59 (← after? ':' rest)
  let (second, rest) ← figure 2 0 60 (← after? ':' rest)
  match rest with
  | '.' :: rest =>
    let (digits, rest) := Reader.span Char.isDigit rest
    if digits.isEmpty then none else some (⟨hour, minute, second, ← nanos digits⟩, rest)
  | rest => some (⟨hour, minute, second, 0⟩, rest)

/-- A distance from universal time, if there is one. -/
def readZone (text : List Char) : Option (Option Zone × List Char) :=
  let shifted (west : Bool) (text : List Char) : Option (Option Zone × List Char) := do
    let (hour, rest) ← figure 2 0 23 text
    let (minute, rest) ← figure 2 0 59 (← after? ':' rest)
    some (some (.shifted west (hour * 60 + minute)), rest)
  match text with
  | 'Z' :: rest | 'z' :: rest => some (some .universal, rest)
  | '+' :: rest => shifted false rest
  | '-' :: rest => shifted true rest
  | text => some (none, text)

/-- Whether a character may stand between a day and a time. -/
def isDivider (c : Char) : Bool := c == 'T' || c == 't' || c == ' '

/-- The moment at the front of a text. -/
def read : Reader Moment := fun text =>
  match readDay text with
  | none => (readClock text).map fun (time, rest) => (clock time, rest)
  | some (date, []) => some (day date, [])
  | some (date, c :: rest) =>
    match if isDivider c then readClock rest else none with
    | none => some (day date, c :: rest)
    | some (time, rest) => (readZone rest).map fun (zone, rest) => (both date time zone, rest)

/-- A number in a fixed count of digits. -/
def padded (digits n : Nat) : String :=
  let text := Nat.toDigits 10 n
  String.ofList (List.replicate (digits - text.length) '0' ++ text)

/-- The written form of a day. -/
def dayText (d : Day) : String := padded 4 d.year ++ "-" ++ padded 2 d.month ++ "-" ++ padded 2 d.day

/-- The written form of a time; a fraction ends in no zero. -/
def clockText (t : Clock) : String :=
  let fraction := ((padded 9 t.nano).toList.reverse.dropWhile (· == '0')).reverse
  padded 2 t.hour ++ ":" ++ padded 2 t.minute ++ ":" ++ padded 2 t.second ++
    (if t.nano = 0 then "" else "." ++ String.ofList fraction)

/-- The written form of a distance from universal time. -/
def zoneText : Zone → String
  | .universal => "Z"
  | .shifted west minutes =>
    (if west && minutes != 0 then "-" else "+") ++ padded 2 (minutes / 60) ++ ":" ++
      padded 2 (minutes % 60)

/-- The written form. -/
def text : Moment → String
  | day d => dayText d
  | clock t => clockText t
  | both d t zone => dayText d ++ "T" ++ clockText t ++ (zone.map zoneText).getD ""

example : ((Reader.whole? read "1979-05-27 07:32:00.50z".toList).map text) =
    some "1979-05-27T07:32:00.5Z" := by cbv

example : (Reader.whole? read "1900-02-29".toList).isNone := by cbv

end Moment

end Gatehouse
