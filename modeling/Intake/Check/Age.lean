import Intake.Calendar.Iso
import Intake.Calendar.Slashed
import Intake.Check.Number

/-! The check of an age in whole years. The date of birth may be a date, milliseconds since 1970, or
a text in ISO form or with slashes. -/

namespace Intake

def dateOfText? (cs : List Char) : Option Calendar.Date :=
  let cs := Text.trim cs
  (((Calendar.Iso.moment? cs).map (·.date)).or (Calendar.Slashed.monthFirst? cs)).or
    (Calendar.Slashed.yearFirst? cs)

def Value.toDate : Value → Except Fault (Option Calendar.Date)
  | .date d => .ok (some d)
  | .moment m => .ok (some m.date)
  | .text s => .ok (dateOfText? s.toList)
  | v => do
    if ← v.isNumber then return v.numeric?.bind Calendar.dateOfMillis?
    return none

namespace Check

def comesEarlierInYear (a b : Calendar.Date) : Bool :=
  a.month < b.month || (a.month == b.month && a.day < b.day)

/-- Someone born on a date has lived fewer whole years than `target` on the day `today`. -/
def isYoungerThan (born today : Calendar.Date) (target : Number.Binary64) : Bool :=
  let years := Number.Numeric.int ((today.year : Int) - born.year)
  years.lt (.float target) || (years.eqv (.float target) && comesEarlierInYear today born)

def age (today : Calendar.Date) (value least : Value) : Except Fault (List String) := do
  let some born ← value.toDate | return [s!"Input is not a valid date: \"{← value.written}\""]
  let target := (← least.toNumber).getD (.zero false)
  messageIf (isYoungerThan born today target) do
    return s!"Input \"{← value.written}\" does not meet the age requirement of: " ++
      s!"\"{← least.written}\""

end Check

end Intake
