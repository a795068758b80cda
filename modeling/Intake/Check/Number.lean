import Intake.Number.Numeral
import Intake.Rule.Display
import Intake.Text.Word

/-! What counts as a number, and the check of numbers against bounds. An integer is rounded to a
binary number first; one too large for that is a fault. -/

namespace Intake

namespace Value

def toNumber : Value → Except Fault (Option Number.Binary64)
  | .int n =>
    let x := Number.Binary64.ofInt n
    if x.isInfinite then .error .integerTooLarge else .ok (some x)
  | .float x => .ok (if x.isNan then none else some x)
  | .text s => .ok (Number.readNumber? (Text.trim s.toList))
  | _ => .ok none

def isNumber : Value → Except Fault Bool
  | .int n => if (Number.Binary64.ofInt n).isInfinite then .error .integerTooLarge else .ok true
  | .float x => .ok (!x.isNan)
  | _ => .ok false

end Value

namespace Check

/-- The two options of a rule, each null when the rule has none. A value that is set holds no
options, which is a fault unless it has parts of those names. -/
def twoOptions (first : String) (read : Options → Option (Value × Value)) :
    Rule → Except Fault (Value × Value)
  | .options o =>
    match read o.options with
    | some r => .ok r
    | none => .error (.missingAttribute o.options.typeName first)
  | .plain v =>
    if !v.truthy then .ok (.null, .null)
    else .error (.missingAttribute v.longTypeName first)

def lengthOptions : Options → Option (Value × Value)
  | .length a b => some (a, b)
  | _ => none

def numberOptions : Options → Option (Value × Value)
  | .number a b => some (a, b)
  | _ => none

def lengthBounds : Rule → Except Fault (Value × Value) := twoOptions "min_length" lengthOptions

/-- Dates have a least and a greatest one, which bound no number. -/
def numberBounds : Rule → Except Fault (Value × Value)
  | .plain (.date _) => .ok (.null, .null)
  | .plain (.moment _) => .ok (.null, .null)
  | r => twoOptions "min" numberOptions r

def messageIf (wrong : Bool) (message : Except Fault String) : Except Fault (List String) :=
  if wrong then do return [← message] else .ok []

def outOfBounds (isBelow isAbove : Bool) (tooSmall tooLarge : Except Fault String) :
    Except Fault (List String) := do
  return (← messageIf isBelow tooSmall) ++ (← messageIf isAbove tooLarge)

def number (value : Value) (rule : Rule) : Except Fault (List String) := do
  let some x ← value.toNumber | return [s!"Input \"{← value.written}\" is not a valid number."]
  let (min, max) ← numberBounds rule
  let least ← min.toNumber
  let greatest ← max.toNumber
  outOfBounds (least.any (x.lt ·)) (greatest.any (x.gt ·))
    (do return s!"Input \"{← value.written}\" is too low. Minimum value is: {← min.written}")
    (do return s!"Input \"{← value.written}\" is too high. Maximum value is: {← max.written}")

end Check

end Intake
