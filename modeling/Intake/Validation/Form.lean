import Intake.Field.Document
import Intake.Submission.Answer
import Intake.Validation.Value

/-! A submission against a form. Fields are taken in the order of their declaration, a group's
children before its own rules. What is submitted under no declared slug is reported first, at every
level. Faults stay with the field or group in which they arise. -/

namespace Intake.Validation

def withChoices (f : Field) (bag : RuleBag) : RuleBag :=
  match f with
  | .select _ choices =>
    if (bag.get? RuleKind.values.key).any Rule.truthy then bag
    else bag.insert RuleKind.values.key (.plain (.list (choices.map (·.value))))
  | _ => bag

/-- A field that allows several values takes a list without a rule for lists. -/
def withList (f : Field) (value : Value) (bag : RuleBag) : RuleBag :=
  if f.attributes.allowMultiple && value.isList && !bag.contains RuleKind.array.key then
    bag.insert RuleKind.array.key (.plain (.bool true))
  else bag

def effectiveRules (f : Field) (value : Value) : RuleBag :=
  withList f value (withChoices f (f.rules.getD .empty))

/-- The first answer with the slug of a field, or the first upload with that name where the field
takes files; null where there is none. -/
def locate (f : Field) (answers : List Answer) (uploads : List Upload) : Value :=
  if f.isFile then
    ((uploads.find? fun u => u.fieldName.equal f.slug).map Upload.toValue).getD .null
  else ((answers.find? fun a => a.slug.equal f.slug).map (·.value)).getD .null

def unexpected (slug : Value) : Failure :=
  ⟨slug, s!"Input field \"{slug.display}\" was not expected.", "UNEXPECTED_FIELD"⟩

def asKeys (slugs : List Value) : Except Fault (List Value) := slugs.mapM Value.asKey

def unexpectedFailures (declared : List Value) : List Value → Except Fault (List Failure)
  | [] => .ok []
  | s :: rest => do
    let s ← s.asKey
    let here := if declared.any s.equal then [] else [unexpected s]
    return here ++ (← unexpectedFailures declared rest)

def uploadsFor (declared : List Value) : List Upload → Except Fault (List Upload)
  | [] => .ok []
  | u :: rest => do
    let name ← u.fieldName.asKey
    let here := if declared.any name.equal then [u] else []
    return here ++ (← uploadsFor declared rest)

def noFields : Failure :=
  ⟨.null, "No fields were provided. Validation is not possible", "NO_FIELDS"⟩

def groupFailure (slug : Value) : Failure :=
  ⟨slug, s!"Field \"{slug.display}\" is not valid: " ++
    "One or more of the fields in the group has validation errors.", "GROUP_INVALID"⟩

def groupFault (slug : Value) : Failure :=
  ⟨slug, s!"An error occurred while validating the input for \"{slug.display}\".",
    "INTERNAL_ERROR"⟩

def slugFailures (fields : List Field) (answers : List Answer) (uploads : List Upload) :
    Except Fault (List Failure) := do
  let submitted := Answer.slugs answers ++ uploads.map (·.fieldName)
  let declared ← asKeys (Field.slugsOf fields)
  unexpectedFailures declared submitted

def underGroup (slug : Value) (below : List Failure) : List Failure :=
  if below.isEmpty then [] else groupFailure slug :: below

mutual

def fieldFailures (c : Context) (answers : List Answer) (uploads : List Upload) :
    Field → Run (List Failure)
  | .group a children => do
    let value := locate (.group a children) answers uploads
    let inner := (Answer.group? value).getD []
    let declared ← Run.ofExcept (asKeys (Field.slugsOf children))
    let own ← Run.ofExcept (uploadsFor declared uploads)
    let below ← (levelFailures c inner own children).orElse fun _ => [groupFault a.slug]
    let leaf ← guardedFailures c a.slug value (effectiveRules (.group a children) value) true
    return underGroup a.slug below ++ leaf
  | .leaf t a =>
    let value := locate (.leaf t a) answers uploads
    guardedFailures c a.slug value (effectiveRules (.leaf t a) value) false
  | .unknown t a =>
    let value := locate (.unknown t a) answers uploads
    guardedFailures c a.slug value (effectiveRules (.unknown t a) value) false
  | .select a choices =>
    let value := locate (.select a choices) answers uploads
    guardedFailures c a.slug value (effectiveRules (.select a choices) value) false
termination_by structural f => f

def levelFailures (c : Context) (answers : List Answer) (uploads : List Upload) :
    List Field → Run (List Failure)
  | [] => pure [noFields]
  | f :: fs => do
    let slugs ← Run.ofExcept (slugFailures (f :: fs) answers uploads)
    let first ← fieldFailures c answers uploads f
    return slugs ++ first ++ (← restFailures c answers uploads fs)
termination_by structural fs => fs

def restFailures (c : Context) (answers : List Answer) (uploads : List Upload) :
    List Field → Run (List Failure)
  | [] => pure []
  | f :: fs => do
    let here ← fieldFailures c answers uploads f
    return here ++ (← restFailures c answers uploads fs)
termination_by structural fs => fs

end

def formFault (f : Fault) : Failure :=
  ⟨.null, "An error occurred while validating the form: " ++ f.message, "INTERNAL_ERROR"⟩

def check (c : Context) (answers : List Answer) (fields : List Field) (uploads : List Upload) :
    Run Report := do
  let failures ← (levelFailures c answers uploads fields).orElse fun f => [formFault f]
  return ⟨failures⟩

/-- The report on a submission as it came in. Without fields nothing is read. -/
def checkSubmission (c : Context) (answers fields uploads : Value) : Run Report := do
  if !fields.truthy then return ⟨[noFields]⟩
  let failures ← Run.orElse (do
    let answers ← Run.ofExcept (Answer.ofItems answers)
    let fields ← Run.ofExcept (Field.ofItems fields)
    let uploads ← Run.ofExcept (Upload.ofItems uploads)
    levelFailures c answers uploads fields) fun f => [formFault f]
  return ⟨failures⟩

end Intake.Validation
