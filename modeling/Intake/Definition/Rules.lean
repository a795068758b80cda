import Intake.Check.Email
import Intake.Check.Number
import Intake.Validation.Failure

/-! Whether the rules of a field make sense: known kinds, options of the right shape, bounds that
are numbers and in order, and patterns that can be read. -/

namespace Intake.Definition

def invalid (kind : Value) (detail : String) : Failure :=
  ⟨.text kind.display, s!"Invalid validator \"{kind.display}\" provided." ++
    (if detail == "" then "" else " " ++ detail), "INVALID_VALIDATOR"⟩

def extraFailures (kind : Value) (o : OptionMap) : List Failure :=
  if o.extra.isEmpty then [] else [invalid kind "Unexpected keys found."]

def withOptions (kind : Value) (rule : Rule)
    (check : Options → Except Fault (Option (List Failure))) : Except Fault (List Failure) := do
  if rule.isTrue then return []
  let refused := [invalid kind "Expected true or an options object."]
  match rule with
  | .plain _ => return refused
  | .options o =>
    match ← check o.options with
    | some failures => return extraFailures kind o ++ failures
    | none => return refused

def onlyOptions (kind : Value) (rule : Rule)
    (check : Options → Except Fault (Option (List Failure))) : Except Fault (List Failure) := do
  let refused := [invalid kind "Expected an options object."]
  match rule with
  | .plain _ => return refused
  | .options o =>
    match ← check o.options with
    | some failures => return extraFailures kind o ++ failures
    | none => return refused

def bound (v : Value) : Except Fault (Option Number.Binary64) :=
  if v.isNull then .ok none else v.toNumber

def failUnless (kind : Value) (holds : Bool) (detail : String) : List Failure :=
  if holds then [] else [invalid kind detail]

def inOrder (least greatest : Option Number.Binary64) : Bool :=
  match least, greatest with
  | some a, some b => !a.gt b
  | _, _ => true

def isBound (given : Value) (number : Option Number.Binary64) (floor : Int) : Bool :=
  given.isNull || number.any fun x => !x.lt (.ofInt floor)

def lengthOptions (kind : Value) : Options → Except Fault (Option (List Failure))
  | .length min max => do
    let least ← bound min
    let greatest ← bound max
    return some
      (failUnless kind (isBound min least 0) "A valid value for \"minLength\" is required." ++
        failUnless kind (isBound max greatest 1) "A valid value for \"maxLength\" is required." ++
        failUnless kind (inOrder least greatest)
          "\"minLength\" value is greater than \"maxLength\" value.")
  | _ => .ok none

def numberOptions (kind : Value) : Options → Except Fault (Option (List Failure))
  | .number min max => do
    let least ← bound min
    let greatest ← bound max
    return some
      (failUnless kind (min.isNull || least.isSome) "A valid value for \"min\" is required." ++
        failUnless kind (max.isNull || greatest.isSome) "A valid value for \"max\" is required." ++
        failUnless kind (inOrder least greatest) "\"min\" value is greater than \"max\" value.")
  | _ => .ok none

def isFilledList : Value → Bool
  | .list xs => !xs.isEmpty
  | _ => false

def phoneOptions (kind : Value) : Options → Except Fault (Option (List Failure))
  | .phone requirements =>
    .ok (some (failUnless kind (isFilledList requirements) "No requirements provided."))
  | _ => .ok none

/-- Whether a value is a pattern. Only malformed patterns and values of the wrong type are told
apart from patterns; other faults stay faults. -/
def isPattern (names : Pattern.Names) (v : Value) : Except Fault Bool :=
  match v.toPattern names with
  | .ok _ => .ok true
  | .error (.pattern _) => .ok false
  | .error (.type _) => .ok false
  | .error f => .error f

def restrictionFailure (names : Pattern.Names) (kind r : Value) : Except Fault (List Failure) := do
  if ← isPattern names r then return []
  return [invalid kind s!"Restriction is not a valid pattern: \"{← r.written}\"."]

def restrictionFailures (names : Pattern.Names) (kind : Value) :
    List Value → Except Fault (List Failure)
  | [] => .ok []
  | r :: rs => do
    let here ← restrictionFailure names kind r
    return here ++ (← restrictionFailures names kind rs)

def emailOptions (names : Pattern.Names) (kind : Value) :
    Options → Except Fault (Option (List Failure))
  | .email restrictions =>
    match restrictions with
    | .list (r :: rs) => some <$> restrictionFailures names kind (r :: rs)
    | _ => .ok (some [invalid kind "No restrictions provided."])
  | _ => .ok none

def fileOptions (kind : Value) : Options → Except Fault (Option (List Failure))
  | .file mimeTypes maxBytes => do
    let limit ← maxBytes.toNumber
    return some (failUnless kind (mimeTypes.isList || limit.any fun x => !x.lt (.ofInt 0))
      "A valid value for \"maxBytes\" and/or \"mimeTypes\" is required.")
  | _ => .ok none

def isFilledText (v : Value) : Bool := v.text?.any (· != "")

def captchaOptions (kind : Value) : Options → Except Fault (Option (List Failure))
  | .captcha siteKey secret =>
    .ok (some
      (failUnless kind (isFilledText siteKey) "A valid value for \"siteKey\" is required." ++
        failUnless kind (isFilledText secret) "A valid value for \"secret\" is required."))
  | _ => .ok none

def addressFailures (kind : Value) : Rule → List Failure
  | .options ⟨.address countries states, _⟩ =>
    failUnless kind (countries.truthy || states.truthy) "No countries and/or states provided."
  | _ => [invalid kind "No countries and/or states provided."]

def minAgeFailures (kind : Value) : Rule → Except Fault (List Failure)
  | .plain v => do
    if (← v.toNumber).isSome then return []
    return [invalid kind s!"Value isn't a number: \"{← v.written}\"."]
  | .options o => do return [invalid kind s!"Value isn't a number: \"{← o.written}\"."]

def ruleFailures (names : Pattern.Names) (key : Value) (rule : Rule) :
    Except Fault (List Failure) :=
  match RuleKind.ofKey? key with
  | none => do return [invalid (.text (← key.written)) ""]
  | some kind =>
    match kind with
    | .required => .ok []
    | .boolean => .ok []
    | .values => .ok []
    | .group => .ok []
    | .string => withOptions key rule (lengthOptions key)
    | .array => withOptions key rule (lengthOptions key)
    | .number => withOptions key rule (numberOptions key)
    | .address => .ok (addressFailures key rule)
    | .phone => withOptions key rule (phoneOptions key)
    | .email => withOptions key rule (emailOptions names key)
    | .minAge => minAgeFailures key rule
    | .file => onlyOptions key rule (fileOptions key)
    | .captcha => onlyOptions key rule (captchaOptions key)

def rulesFailures (names : Pattern.Names) : List (Value × Rule) → Except Fault (List Failure)
  | [] => .ok []
  | (key, rule) :: rest => do
    let here ← ruleFailures names key rule
    return here ++ (← rulesFailures names rest)

def bagFailures (names : Pattern.Names) (b : RuleBag) : Except Fault (List Failure) :=
  rulesFailures names b.rules

def checkRules (names : Pattern.Names) (v : Value) : Except Fault Report := do
  if !v.truthy then return ⟨[]⟩
  return ⟨← bagFailures names (← RuleBag.ofValue v)⟩

end Intake.Definition
