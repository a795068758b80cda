/-! Text without the sequences that steer a terminal: an escape, an opening bracket, digits,
semicolons and question marks in any number, and a letter. -/

namespace Intake.Text

def isParameter (c : Char) : Bool := c.isDigit || c == ';' || c == '?'

def afterSequence? : List Char → Option (List Char)
  | [] => none
  | c :: cs =>
    if isParameter c then afterSequence? cs
    else if c.isAlpha then some cs
    else none

theorem length_lt_of_afterSequence? {cs rest : List Char} (h : afterSequence? cs = some rest) :
    rest.length < cs.length := by
  fun_induction afterSequence? cs with
  | case1 => simp at h
  | case2 c cs _ ih => exact Nat.lt_succ_of_lt (ih h)
  | case3 c cs _ _ => simp_all
  | case4 => simp at h

def withoutSequences : List Char → List Char
  | [] => []
  | '\x1b' :: '[' :: cs =>
    match _ : afterSequence? cs with
    | some rest => withoutSequences rest
    | none => '\x1b' :: withoutSequences ('[' :: cs)
  | c :: cs => c :: withoutSequences cs
termination_by cs => cs.length
decreasing_by
  · have := length_lt_of_afterSequence? ‹_›
    simp only [List.length_cons]; omega
  · simp
  · simp

end Intake.Text
