import Intake.Check.Number

/-! The checks of texts and of lists, both against bounds on the length. -/

namespace Intake.Check

def lengthFailures (label : String) (value : Value) (length : Nat) (rule : Rule) :
    Except Fault (List String) := do
  let (min, max) ← lengthBounds rule
  let least ← min.toNumber
  let greatest ← max.toNumber
  let n := Number.Numeric.int length
  outOfBounds (least.any fun x => n.lt (.float x)) (greatest.any fun x => n.gt (.float x))
    (do return s!"{label} \"{← value.written}\" is too short. Minimum length is: {← min.written}")
    (do return s!"{label} \"{← value.written}\" is too long. Maximum length is: {← max.written}")

def isBlankText (s : String) : Bool := s.toList.all Text.isBlank

def string (value : Value) (rule : Rule) : Except Fault (List String) :=
  match value with
  | .text s =>
    if isBlankText s then .ok [s!"Input value \"{s}\" is not a valid string."]
    else lengthFailures "Input value" value s.length rule
  | v => do return [s!"Input value \"{← v.written}\" is not a valid string."]

def array (value : Value) (rule : Rule) : Except Fault (List String) :=
  match value.elements? with
  | some xs => lengthFailures "Input" value xs.length rule
  | none => do return [s!"Input \"{← value.written}\" is not an array."]

end Intake.Check
