import Intake.Fault
import Intake.Number.Loose

/-! Dates and times in plain scalars: a date, and after a letter T or blanks a time of day with an
optional fraction and zone. -/

namespace Intake.Yaml

structure Timestamp where
  year : Nat
  month : Nat
  day : Nat
  time : Option (Nat × Nat × Nat)
  fraction : List Char
  zone : Option Int
  deriving Repr, DecidableEq

namespace Timestamp

def number? (least most : Nat) (cs : List Char) : Option (Nat × List Char) :=
  let digits := (cs.take most).takeWhile Char.isDigit
  if digits.length < least then none
  else some (Number.ofDigits digits, cs.drop digits.length)

def skipBlanks (cs : List Char) : List Char := cs.dropWhile fun c => c == ' ' || c == '\t'

def zone? (cs : List Char) : Option (Option Int) :=
  match skipBlanks cs with
  | [] => if cs.isEmpty then some none else none
  | ['Z'] => some (some 0)
  | sign :: rest => do
    if sign != '+' && sign != '-' then none
    let (hours, rest) ← number? 1 2 rest
    let minutes ← match rest with
      | [] => some 0
      | ':' :: rest => do
        let (n, rest) ← number? 2 2 rest
        if rest.isEmpty then some n else none
      | _ => none
    let offset : Int := hours * 60 + minutes
    return some (if sign == '-' then -offset else offset)

def ofChars? (cs : List Char) : Option Timestamp := do
  let (year, cs) ← number? 4 4 cs
  let cs ← if cs.head? == some '-' then some (cs.drop 1) else none
  let (month, cs) ← number? 1 2 cs
  let cs ← if cs.head? == some '-' then some (cs.drop 1) else none
  let (day, cs) ← number? 1 2 cs
  if cs.isEmpty then return ⟨year, month, day, none, [], none⟩
  let cs ← match cs with
    | 'T' :: cs => some cs
    | 't' :: cs => some cs
    | _ => if (skipBlanks cs).length < cs.length then some (skipBlanks cs) else none
  let (hour, cs) ← number? 1 2 cs
  let cs ← if cs.head? == some ':' then some (cs.drop 1) else none
  let (minute, cs) ← number? 2 2 cs
  let cs ← if cs.head? == some ':' then some (cs.drop 1) else none
  let (second, cs) ← number? 2 2 cs
  let (fraction, cs) := match cs with
    | '.' :: cs => (cs.takeWhile Char.isDigit, cs.dropWhile Char.isDigit)
    | _ => ([], cs)
  return ⟨year, month, day, some (hour, minute, second), fraction, ← zone? cs⟩

def microsecond (t : Timestamp) : Nat :=
  let digits := t.fraction.take 6
  Number.ofDigits digits * Nat.pow 10 (6 - digits.length)

def value (t : Timestamp) : Except Intake.Fault Value := do
  let clock {α : Type} : Except Calendar.ClockFault α → Except Intake.Fault α :=
    Except.mapError fun f => .value (.clock f)
  let offset := t.zone.map (· * 60000000)
  clock (Calendar.checkOffset offset)
  let date ← (Calendar.Date.make t.year t.month t.day).mapError fun f => .value (.date f)
  match t.time with
  | none => return .date date
  | some (hour, minute, second) =>
    return .moment (← clock (Calendar.Moment.make date hour minute second t.microsecond offset))

end Timestamp

end Intake.Yaml
