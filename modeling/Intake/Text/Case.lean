import Intake.Text.CaseTable

/-! Lower case. Every letter goes to its lower-case form; a capital I with dot becomes an i with a
combining dot, and a capital sigma takes its final form at the end of a word. -/

namespace Intake.Text

def lowerChar (c : Char) : Char :=
  if c.toNat < 128 then c.toLower
  else match lowerRuns.find? (·.covers c.toNat) with
    | some r => Char.ofNat (r.image + (c.toNat - r.first))
    | none => c

def meetsCased (cs : List Char) : Bool :=
  match cs.find? (fun c => !caseIgnorable.contains c.toNat) with
  | some c => casedLetters.contains c.toNat
  | none => false

/-- The lower-case form of `c` with the characters before it (nearest first) and after it. -/
def lowerIn (before : List Char) (c : Char) (after : List Char) : List Char :=
  if c == 'Σ' then
    if meetsCased before && !meetsCased after then ['ς'] else ['σ']
  else if c == 'İ' then ['i', '\u0307']
  else [lowerChar c]

def lowerFrom (before : List Char) : List Char → List Char
  | [] => []
  | c :: cs => lowerIn before c cs ++ lowerFrom (c :: before) cs

def lowerChars (cs : List Char) : List Char := lowerFrom [] cs

def lower (s : String) : String := String.ofList (lowerChars s.toList)

def caseClass (c : Char) : List Nat :=
  let l := (lowerChar c).toNat
  l :: ((caseSiblings.find? (·.1 == l)).map (·.2)).getD []

end Intake.Text
