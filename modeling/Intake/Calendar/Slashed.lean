import Intake.Calendar.Date
import Intake.Text.Word

/-! Dates with slashes: month, day and year, or year, month and day. Months and days have one or two
digits and years four; the digits after the first may be of any script where they may be any
digit. -/

namespace Intake.Calendar.Slashed

def plain? (low high : Nat) (c : Char) : Option Nat :=
  if c.isDigit && low ≤ c.toNat - 48 && c.toNat - 48 ≤ high then some (c.toNat - 48) else none

def month? : List Char → Option Nat
  | [c] => plain? 1 9 c
  | ['0', c] => plain? 1 9 c
  | ['1', c] => (plain? 0 2 c).map (10 + ·)
  | _ => none

def day? : List Char → Option Nat
  | [c] => plain? 1 9 c
  | ['0', c] => plain? 1 9 c
  | [' ', c] => plain? 1 9 c
  | ['3', c] => (plain? 0 1 c).map (30 + ·)
  | [a, c] => do return (← plain? 1 2 a) * 10 + (← Text.decimalDigit? c)
  | _ => none

def year? (cs : List Char) : Option Nat :=
  if cs.length == 4 then
    cs.foldlM (fun n c => (Text.decimalDigit? c).map (n * 10 + ·)) 0
  else none

def parts : List Char → List (List Char)
  | [] => [[]]
  | c :: cs =>
    if c == '/' then [] :: parts cs
    else match parts cs with
      | p :: ps => (c :: p) :: ps
      | [] => [[c]]

def monthFirst? (cs : List Char) : Option Date :=
  match parts cs with
  | [m, d, y] => do Date.of? (← year? y) (← month? m) (← day? d)
  | _ => none

def yearFirst? (cs : List Char) : Option Date :=
  match parts cs with
  | [y, m, d] => do Date.of? (← year? y) (← month? m) (← day? d)
  | _ => none

end Intake.Calendar.Slashed
