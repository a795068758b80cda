import Intake.Number.Numeral
import Intake.Text.Word
import Intake.Text.Case

/-! Numbers as people type them into settings: blanks around them, low lines between digits, digits
of any script, and the words for infinity and for what is not a number in either case. -/

namespace Intake.Number

def plainDigit (c : Char) : Char :=
  match Text.decimalDigit? c with
  | some d => Char.ofNat (48 + d)
  | none => c

/-- Low lines are dropped where they stand between two digits; none when one stands elsewhere. -/
def dropLowLines (digit : Char → Bool) : Option Char → List Char → Option (List Char)
  | _, [] => some []
  | before, c :: cs =>
    if c == '_' then
      let between := before.any digit && cs.head?.any digit
      if between then dropLowLines digit (some c) cs else none
    else (dropLowLines digit (some c) cs).map (c :: ·)

def readLoose? (cs : List Char) : Option Binary64 := do
  let cs ← dropLowLines Char.isDigit none ((Text.trim cs).map plainDigit)
  let (negative, rest) := readSign cs
  let word := String.ofList (rest.map Char.toLower)
  if word == "inf" || word == "infinity" then return .infinite negative
  else if word == "nan" then return .nan
  else (readNumeral? cs).map Numeral.value

def digitIn? (base : Nat) (c : Char) : Option Nat :=
  let n := c.toNat
  let d := if c.isDigit then n - 48 else if c.isAlpha then c.toLower.toNat - 87 else base
  if d < base then some d else none

def readDigits? (base : Nat) (cs : List Char) : Option Nat :=
  if cs.isEmpty then none
  else cs.foldlM (fun n c => (digitIn? base c).map (n * base + ·)) 0

def baseMark (base : Nat) : List Char :=
  match base with
  | 2 => ['b', 'B']
  | 8 => ['o', 'O']
  | 16 => ['x', 'X']
  | _ => []

def readLooseInt? (base : Nat) (cs : List Char) : Option Int := do
  let (negative, cs) := readSign ((Text.trim cs).map plainDigit)
  let body := match cs with
    | '0' :: m :: rest => if (baseMark base).contains m then
        (match rest with | '_' :: rest => rest | _ => rest) else cs
    | _ => cs
  let n ← readDigits? base (← dropLowLines (fun c => (digitIn? base c).isSome) none body)
  return Binary64.signed negative n

end Intake.Number
