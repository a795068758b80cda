import Intake.Captcha.Verification
import Intake.Check.Age
import Intake.Check.Email
import Intake.Check.File
import Intake.Check.Phone
import Intake.Check.Presence
import Intake.Validation.Failure

/-! One submitted value against the rules of a field. The rules are checked in the order of their
declaration; of a list each element is checked on its own. A fault in any check takes the place of
all failures of the value. The slug that failures name is taken to be one that can be written. -/

namespace Intake.Validation

structure Context where
  today : Calendar.Date
  client : Captcha.Client
  names : Pattern.Names

def code : RuleKind → String
  | .required => "REQUIRED"
  | .string => "STRING"
  | .boolean => "BOOLEAN"
  | .number => "NUMBER"
  | .array => "ARRAY"
  | .minAge => "MIN_AGE"
  | .values => "VALUES"
  | .group => "GROUP"
  | .email => "EMAIL"
  | .phone => "PHONE"
  | .address => "ADDRESS"
  | .file => "FILE"
  | .captcha => "RECAPTCHA"

def isEmpty : Value → Bool
  | .null => true
  | .bool b => !b
  | .text s => s == ""
  | .int n => n == 0
  | .float x => x.isZero || x.isNan
  | _ => false

def withoutShorthand (rule : Rule) : Rule := if rule.isTrue then .plain .null else rule

def failure (slug : Value) (detail code : String) : Failure :=
  ⟨slug, s!"Field \"{slug.display}\" is not valid: {detail}", code⟩

def internalFailure (slug : Value) : Failure :=
  failure slug "An error occurred while validating the input." "INTERNAL_ERROR"

def multipleFailure (slug : Value) : Failure :=
  failure slug "Input is an array but the field does not allow multiple values."
    "MULTIPLE_NOT_ALLOWED"

def asUpload? : Value → Option Upload
  | .upload f m s p o => some ⟨f, m, s, p, o⟩
  | _ => none

def messages (c : Context) (kind : RuleKind) (value : Value) (rule : Rule) : Run (List String) :=
  let options := withoutShorthand rule
  match kind with
  | .required => pure (Check.required value rule.isFalse)
  | .string => .ofExcept (Check.string value options)
  | .boolean => .ofExcept (Check.boolean value)
  | .number => .ofExcept (Check.number value options)
  | .minAge => .ofExcept (Check.age c.today value rule.toValue)
  | .values => .ofExcept (Check.values value rule.toValue)
  | .email => .ofExcept (do Check.email c.names value (← Check.emailRestrictions options))
  | .phone => .ofExcept (do Check.phone value (← Check.phoneRequirements options))
  | .file => .ofExcept (Check.file (asUpload? value) options)
  | .captcha => Captcha.check c.client value options
  | .array => pure []
  | .group => pure []
  | .address => pure []

def ruleFailures (c : Context) (slug value : Value) (key : Value) (rule : Rule) :
    Run (List Failure) :=
  match RuleKind.ofKey? key with
  | some kind => List.map (failure slug · (code kind)) <$> messages c kind value rule
  | none => pure []

def rulesFailures (c : Context) (slug value : Value) : List (Value × Rule) → Run (List Failure)
  | [] => pure []
  | (key, rule) :: rest => do
    let here ← ruleFailures c slug value key rule
    return here ++ (← rulesFailures c slug value rest)

def elementFailures (c : Context) (slug : Value) (bag : RuleBag) (value : Value) :
    Run (List Failure) :=
  if bag.optsOut && isEmpty value then pure []
  else if value.elements?.isSome then pure [multipleFailure slug]
  else rulesFailures c slug value bag.rules

def elementsFailures (c : Context) (slug : Value) (bag : RuleBag) :
    List Value → Run (List Failure)
  | [] => pure []
  | x :: xs => do
    let here ← elementFailures c slug bag x
    return here ++ (← elementsFailures c slug bag xs)

def listFailures (c : Context) (slug value : Value) (bag : RuleBag) (xs : List Value) :
    Run (List Failure) := do
  match bag.get? RuleKind.array.key with
  | none => return [multipleFailure slug]
  | some rule =>
    if !rule.truthy then return [multipleFailure slug]
    let whole ← Run.ofExcept (Check.array value (withoutShorthand rule))
    return whole.map (failure slug · (code .array)) ++
      (← elementsFailures c slug (bag.erase RuleKind.array.key) xs)

/-- The failures of a value. The value of a group counts as one value although it is a list. -/
def valueFailures (c : Context) (slug value : Value) (bag : RuleBag) (isGroup : Bool) :
    Run (List Failure) :=
  if bag.optsOut && isEmpty value then pure []
  else match value.elements? with
    | some xs =>
      if isGroup then rulesFailures c slug value bag.rules else listFailures c slug value bag xs
    | none => rulesFailures c slug value bag.rules

/-- The failures of a value; a fault becomes the only one. -/
def guardedFailures (c : Context) (slug value : Value) (bag : RuleBag) (isGroup : Bool) :
    Run (List Failure) :=
  (valueFailures c slug value bag isGroup).orElse fun _ => [internalFailure slug]

def checkInput (c : Context) (value slug : Value) (bag : RuleBag) : Run Report := do
  return ⟨← guardedFailures c slug value bag false⟩

def rulesOf : Value → Except Fault RuleBag
  | .null => .ok .empty
  | v => RuleBag.ofValue v

end Intake.Validation
