import Intake.Number.Binary64

/-! Dates of the Gregorian calendar, extended to the years 1 to 9999, and their day numbers: day 1
is the first of January of the year 1. Milliseconds since the start of 1970 become seconds in
binary, whose part below a second is rounded to microseconds, and the day is the one in universal
time. -/

namespace Intake.Calendar

def isLeap (year : Nat) : Bool := year % 4 == 0 && (year % 100 != 0 || year % 400 == 0)

def daysIn (year month : Nat) : Nat :=
  if month == 2 then (if isLeap year then 29 else 28)
  else if month == 4 || month == 6 || month == 9 || month == 11 then 30
  else 31

structure Date where
  year : Nat
  month : Nat
  day : Nat
  year_pos : 1 ≤ year
  year_le : year ≤ 9999
  month_pos : 1 ≤ month
  month_le : month ≤ 12
  day_pos : 1 ≤ day
  day_le : day ≤ daysIn year month
  deriving DecidableEq, Repr

inductive DateFault where
  | year (year : Nat)
  | month
  | day
  deriving DecidableEq, Repr

def DateFault.message : DateFault → String
  | .year y => s!"year {y} is out of range"
  | .month => "month must be in 1..12"
  | .day => "day is out of range for month"

namespace Date

def make (year month day : Nat) : Except DateFault Date :=
  if hy : 1 ≤ year ∧ year ≤ 9999 then
    if hm : 1 ≤ month ∧ month ≤ 12 then
      if hd : 1 ≤ day ∧ day ≤ daysIn year month then
        .ok ⟨year, month, day, hy.1, hy.2, hm.1, hm.2, hd.1, hd.2⟩
      else .error .day
    else .error .month
  else .error (.year year)

def of? (year month day : Nat) : Option Date := (make year month day).toOption

@[simp, grind =] theorem of?_self (d : Date) : of? d.year d.month d.day = some d := by
  simp [of?, make, d.year_pos, d.year_le, d.month_pos, d.month_le, d.day_pos, d.day_le,
    Except.toOption]

def daysBeforeYear (year : Nat) : Nat :=
  let y := year - 1
  y * 365 + y / 4 - y / 100 + y / 400

def daysBeforeMonth (year : Nat) : Nat → Nat
  | 0 => 0
  | 1 => 0
  | month + 2 => daysBeforeMonth year (month + 1) + daysIn year (month + 1)

def number (d : Date) : Nat := daysBeforeYear d.year + daysBeforeMonth d.year d.month + d.day

def monthDay (year month : Nat) : Nat → Nat → Nat × Nat
  | 0, n => (month, n + 1)
  | fuel + 1, n =>
    if n < daysIn year month then (month, n + 1)
    else monthDay year (month + 1) fuel (n - daysIn year month)

def yearDay (number : Nat) : Nat × Nat :=
  let n := number - 1
  let centuries := n % 146097
  let fours := min (centuries / 36524) 3
  let rest := centuries - fours * 36524
  let years := rest % 1461
  let single := min (years / 365) 3
  (n / 146097 * 400 + fours * 100 + rest / 1461 * 4 + single + 1, years - single * 365)

def ofNumber? (number : Nat) : Option Date :=
  if number == 0 then none
  else
    let (year, n) := yearDay number
    let (month, day) := monthDay year 1 11 n
    of? year month day

def epochNumber : Nat := 719163

def ofEpochDay? (days : Int) : Option Date :=
  let n := days + epochNumber
  if 0 < n then ofNumber? n.toNat else none

def weekday (number : Nat) : Nat := (number + 6) % 7

/-- The number of the Monday of the first week of a year, the week that holds its first Thursday;
as an integer since that Monday may belong to the year before. -/
def firstMonday (year : Nat) : Int :=
  let first := daysBeforeYear year + 1
  let w := weekday first
  if w ≤ 3 then (first : Int) - w else first - w + 7

def hasLongWeekYear (year : Nat) : Bool :=
  let w := weekday (daysBeforeYear year + 1)
  w == 3 || (w == 2 && isLeap year)

def ofWeek? (year week day : Nat) : Option Date :=
  if year < 1 || 9999 < year then none
  else if week < 1 || 53 < week || (week == 53 && !hasLongWeekYear year) then none
  else if day < 1 || 7 < day then none
  else
    let n := firstMonday year + (week - 1) * 7 + (day - 1)
    if 0 < n then ofNumber? n.toNat else none

def padded (width n : Nat) : String :=
  let ds := Nat.toDigits 10 n
  String.ofList (List.replicate (width - ds.length) '0' ++ ds)

def write (d : Date) : String :=
  padded 4 d.year ++ "-" ++ padded 2 d.month ++ "-" ++ padded 2 d.day

end Date

open Number in
def dateOfSeconds? (seconds : Binary64) : Option Date := do
  let (whole, part) ← seconds.split?
  let micros ← (part.mul (.ofInt 1000000)).round?
  let whole := if 1000000 ≤ micros then whole + 1 else if micros < 0 then whole - 1 else whole
  Date.ofEpochDay? (Int.fdiv whole 86400)

open Number in
def secondsOfMillis : Numeric → Binary64
  | .int n => .ofRatio (n < 0) n.natAbs 1000
  | .float x => x.divNat 1000

def dateOfMillis? (millis : Number.Numeric) : Option Date := dateOfSeconds? (secondsOfMillis millis)

end Intake.Calendar
