import Intake.Calendar.Moment

/-! Dates and times after ISO 8601: calendar dates and week dates, with or without dashes, and after
any single character a time with or without colons, a fraction after a point or comma, and an
offset. -/

namespace Intake.Calendar.Iso

def digit? (c : Char) : Option Nat := if c.isDigit then some (c.toNat - 48) else none

def digits? : Nat → Nat → List Char → Option (Nat × List Char)
  | 0, n, cs => some (n, cs)
  | _ + 1, _, [] => none
  | count + 1, n, c :: cs => (digit? c).bind fun d => digits? count (n * 10 + d) cs

/-- A day of a week after the number of the year and a dash: the day may be left out. A dash that
two digits follow starts a time. -/
def dashedWeek? (year week : Nat) (rest : List Char) : Option (Option Date × List Char) :=
  match rest with
  | '-' :: d :: after =>
    if after.head?.any Char.isDigit then some (Date.ofWeek? year week 1, rest)
    else (digit? d).map fun d => (Date.ofWeek? year week d, after)
  | ['-'] => none
  | _ => some (Date.ofWeek? year week 1, rest)

/-- The same without dashes: of the digits that follow the week the first is the day when their
number is odd or they are two or more and even in all. -/
def plainWeek? (year week : Nat) (rest : List Char) : Option (Option Date × List Char) :=
  let count := (rest.takeWhile Char.isDigit).length
  match rest with
  | d :: after =>
    if count == 1 || (2 ≤ count && count % 2 == 0) then
      (digit? d).map fun d => (Date.ofWeek? year week d, after)
    else some (Date.ofWeek? year week 1, rest)
  | [] => some (Date.ofWeek? year week 1, rest)

def date? (cs : List Char) : Option (Date × List Char) := do
  let (year, cs) ← digits? 4 0 cs
  let (date, rest) ← match cs with
    | '-' :: 'W' :: cs => do
      let (week, rest) ← digits? 2 0 cs
      dashedWeek? year week rest
    | '-' :: cs => do
      let (month, cs) ← digits? 2 0 cs
      match cs with
      | '-' :: cs => do
        let (day, rest) ← digits? 2 0 cs
        some (Date.of? year month day, rest)
      | _ => none
    | 'W' :: cs => do
      let (week, rest) ← digits? 2 0 cs
      plainWeek? year week rest
    | _ => do
      let (month, cs) ← digits? 2 0 cs
      let (day, rest) ← digits? 2 0 cs
      some (Date.of? year month day, rest)
  return (← date, rest)

structure Clock where
  hour : Nat
  minute : Nat
  second : Nat
  microsecond : Nat
  deriving DecidableEq, Repr

def fraction? (cs : List Char) : Option (Nat × Bool) := do
  let count := min cs.length 6
  let (n, rest) ← digits? count 0 cs
  return (n * Nat.pow 10 (6 - count), !(rest.dropWhile Char.isDigit).isEmpty)

def leftOver? (clock : Clock) (c : Char) : Option (Clock × Bool) :=
  if c.toNat < 128 then some (clock, true) else none

def clock? (cs : List Char) : Option (Clock × Bool) := do
  let (hour, cs) ← digits? 2 0 cs
  let dashes := cs.head? == some ':'
  match cs with
  | [] => return (⟨hour, 0, 0, 0⟩, false)
  | [c] => leftOver? ⟨hour, 0, 0, 0⟩ c
  | c :: after =>
  if !dashes && (c == '.' || c == ',') then
    let (us, left) ← fraction? after
    return (⟨hour, 0, 0, us⟩, left)
  let (minute, cs) ← digits? 2 0 (if dashes then after else cs)
  match cs with
  | [] => return (⟨hour, minute, 0, 0⟩, false)
  | [c] => leftOver? ⟨hour, minute, 0, 0⟩ c
  | c :: after =>
  if c == '.' || c == ',' then
    let (us, left) ← fraction? after
    return (⟨hour, minute, 0, us⟩, left)
  if dashes && c != ':' then none
  let (second, cs) ← digits? 2 0 (if dashes then after else cs)
  match cs with
  | [] => return (⟨hour, minute, second, 0⟩, false)
  | [c] => leftOver? ⟨hour, minute, second, 0⟩ c
  | c :: after =>
  let (us, left) ← if c == '.' || c == ',' || (dashes && c == ':') then fraction? after
    else if dashes then none
    else fraction? cs
  return (⟨hour, minute, second, us⟩, left)

def Clock.microseconds (c : Clock) : Int :=
  ((c.hour * 60 + c.minute) * 60 + c.second) * 1000000 + c.microsecond

def startsZone (c : Char) : Bool := c == '+' || c == '-' || c == 'Z'

/-- The time of day on a date. An offset of no whole seconds counts as none from universal time. -/
def time? (date : Date) (cs : List Char) : Option Moment := do
  let (clock, left) ← clock? (cs.takeWhile (!startsZone ·))
  let offset ← match cs.dropWhile (!startsZone ·) with
    | [] => if left then none else some none
    | 'Z' :: rest => if rest.isEmpty then some (some 0) else none
    | sign :: rest => do
      let (zone, left) ← clock? rest
      if left then none
      let us := zone.microseconds
      let us := if us < 1000000 then 0 else us
      some (some (if sign == '-' then -us else us))
  (Moment.make date clock.hour clock.minute clock.second clock.microsecond offset).toOption

def moment? (cs : List Char) : Option Moment := do
  let (date, rest) ← date? cs
  match rest with
  | [] => return ⟨date, 0, 0, 0, 0, none⟩
  | _ :: time => time? date time

end Intake.Calendar.Iso
