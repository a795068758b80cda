import Intake.Rule.Display
import Intake.Text.Word

/-! The check of phone numbers: ten digits, or the digit one and ten digits, whatever stands between
them. Countries are not told apart; a number that fails does so once for each. -/

namespace Intake

namespace Phone

def digitsOf (s : String) : List Char := s.toList.filter Char.isDigit

def isNumber (ds : List Char) : Bool :=
  ds.length == 10 || (ds.length == 11 && ds.head? == some '1')

def isNoise (c : Char) : Bool := c == '.' || c == '+' || c == '-' || Text.isBlank c

def normalize (v : Value) : Except Fault (Option String) :=
  if !v.truthy then .ok none
  else do return some (String.ofList ((← v.written).toList.filter (!isNoise ·)))

end Phone

namespace Check

/-- How many countries a list names; one when it names none. -/
def countryCount : Value → Nat
  | .list xs => if xs.isEmpty then 1 else xs.length
  | _ => 1

def phoneRequirements : Rule → Except Fault Value
  | .options ⟨.phone r, _⟩ => .ok r
  | .options o => .error (.missingAttribute o.options.typeName "requirements")
  | .plain .null => .ok .null
  | .plain v => .error (.missingAttribute v.longTypeName "requirements")

def phone (value countries : Value) : Except Fault (List String) :=
  if !value.truthy then .ok ["No phone number provided to validate."]
  else do
    let ds := Phone.digitsOf (← value.written)
    return if Phone.isNumber ds then []
      else List.replicate (countryCount countries)
        s!"Input \"{String.ofList ds}\" does not appear to be a valid phone number."

end Check

end Intake
