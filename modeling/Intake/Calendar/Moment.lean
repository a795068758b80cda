import Intake.Calendar.Date

/-! A date with a time of day and, where it is known, the offset of the clock from universal time.
Two moments with offsets are the same when they name the same instant. -/

namespace Intake.Calendar

/-- The offset counts microseconds. -/
structure Moment where
  date : Date
  hour : Nat
  minute : Nat
  second : Nat
  microsecond : Nat
  offset : Option Int
  deriving DecidableEq, Repr

inductive ClockFault where
  | hour
  | minute
  | second
  | offset (microseconds : Int)
  deriving DecidableEq, Repr

/-- Days, seconds and microseconds of a span, the latter two not negative and in range. -/
def spanParts (microseconds : Int) : Int × Nat × Nat :=
  let seconds := Int.fdiv microseconds 1000000
  (Int.fdiv seconds 86400, (Int.fmod seconds 86400).toNat,
    (Int.fmod microseconds 1000000).toNat)

def writeSpan (microseconds : Int) : String :=
  let (days, seconds, micros) := spanParts microseconds
  let parts := (if days == 0 then [] else [s!"days={days}"]) ++
    (if seconds == 0 then [] else [s!"seconds={seconds}"]) ++
    (if micros == 0 then [] else [s!"microseconds={micros}"])
  "datetime.timedelta(" ++ (if parts.isEmpty then "0" else ", ".intercalate parts) ++ ")"

def ClockFault.message : ClockFault → String
  | .hour => "hour must be in 0..23"
  | .minute => "minute must be in 0..59"
  | .second => "second must be in 0..59"
  | .offset us => "offset must be a timedelta strictly between -timedelta(hours=24) and " ++
      "timedelta(hours=24), not " ++ writeSpan us ++ "."

def dayMicroseconds : Int := 86400000000

def checkOffset (offset : Option Int) : Except ClockFault Unit :=
  match offset with
  | some us => if us.natAbs < dayMicroseconds.natAbs then .ok () else .error (.offset us)
  | none => .ok ()

namespace Moment

def make (date : Date) (hour minute second microsecond : Nat) (offset : Option Int) :
    Except ClockFault Moment := do
  if 24 ≤ hour then throw .hour
  if 60 ≤ minute then throw .minute
  if 60 ≤ second then throw .second
  checkOffset offset
  return ⟨date, hour, minute, second, microsecond, offset⟩

def clock (m : Moment) : Int :=
  (((m.date.number * 24 + m.hour) * 60 + m.minute) * 60 + m.second) * 1000000 + m.microsecond

def eqv (a b : Moment) : Bool :=
  match a.offset, b.offset with
  | none, none => a.clock == b.clock
  | some x, some y => a.clock - x == b.clock - y
  | _, _ => false

def writeOffset (microseconds : Int) : String :=
  let us := microseconds.natAbs
  let seconds := us / 1000000
  (if microseconds < 0 then "-" else "+") ++ Date.padded 2 (seconds / 3600) ++ ":" ++
    Date.padded 2 (seconds / 60 % 60) ++
    (if seconds % 60 == 0 && us % 1000000 == 0 then "" else ":" ++ Date.padded 2 (seconds % 60)) ++
    (if us % 1000000 == 0 then "" else "." ++ Date.padded 6 (us % 1000000))

def write (separator : String) (m : Moment) : String :=
  m.date.write ++ separator ++ Date.padded 2 m.hour ++ ":" ++ Date.padded 2 m.minute ++ ":" ++
    Date.padded 2 m.second ++
    (if m.microsecond == 0 then "" else "." ++ Date.padded 6 m.microsecond) ++
    (m.offset.map writeOffset).getD ""

def describe (m : Moment) : String :=
  let small := if m.microsecond == 0 then
      (if m.second == 0 then [] else [toString m.second])
    else [toString m.second, toString m.microsecond]
  let zone := match m.offset with
    | none => []
    | some 0 => ["tzinfo=datetime.timezone.utc"]
    | some us => ["tzinfo=datetime.timezone(" ++ writeSpan us ++ ")"]
  "datetime.datetime(" ++ ", ".intercalate ([m.date.year, m.date.month, m.date.day, m.hour,
    m.minute].map toString ++ small ++ zone) ++ ")"

end Moment

end Intake.Calendar
