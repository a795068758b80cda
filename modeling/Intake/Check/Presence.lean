import Intake.Check.Length

/-! The checks that a value is there, that it is a boolean and that it is among given values. -/

namespace Intake.Check

def isMissing : Value → Bool
  | .null => true
  | .bool b => !b
  | .float x => x.isNan
  | .text s => isBlankText s
  | .list xs => xs.isEmpty
  | .tuple xs => xs.isEmpty
  | .map es => es.isEmpty
  | _ => false

def required (value : Value) (isOptional : Bool) : List String :=
  if !isOptional && isMissing value then ["A value is required."] else []

def boolean : Value → Except Fault (List String)
  | .bool _ => .ok []
  | .null => .ok []
  | v => do return [s!"Input is not a boolean: \"{← v.written}\""]

def values (value allowed : Value) : Except Fault (List String) :=
  match allowed.elements? with
  | some xs =>
    if xs.isEmpty || xs.any (value.same ·) then .ok []
    else do return [s!"Input \"{← value.written}\" is not in the list of acceptable values."]
  | none => .ok []

end Intake.Check
