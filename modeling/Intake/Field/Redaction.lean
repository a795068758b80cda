import Intake.Field.Basic

/-! Fields without their secrets, for those who fill in a form: the secret of every captcha rule of
a captcha field becomes empty, and all else stays as it is. -/

namespace Intake

def OptionMap.blankSecret (o : OptionMap) : OptionMap :=
  match o.options with
  | .captcha siteKey _ => { o with options := .captcha siteKey (.text "") }
  | _ => o

def Rule.hasSecret : Rule → Bool
  | .options ⟨.captcha _ secret, _⟩ => secret.truthy
  | _ => false

def Rule.blankSecret : Rule → Rule
  | .options o => .options o.blankSecret
  | r => r

def RuleBag.redact (b : RuleBag) : RuleBag :=
  match b.get? RuleKind.captcha.key with
  | some r => if r.hasSecret then b.insert RuleKind.captcha.key r.blankSecret else b
  | none => b

namespace Field

mutual

def redact : Field → Field
  | .leaf .captcha a => .leaf .captcha { a with rules := a.rules.map RuleBag.redact }
  | .group a children => .group a (redactAll children)
  | f => f
termination_by structural f => f

def redactAll : List Field → List Field
  | [] => []
  | f :: fs => redact f :: redactAll fs
termination_by structural fs => fs

end

mutual

def holdsSecret : Field → Bool
  | .leaf .captcha a =>
    (a.rules.bind fun b => b.get? RuleKind.captcha.key).any Rule.hasSecret
  | .group _ children => holdSecret children
  | _ => false
termination_by structural f => f

def holdSecret : List Field → Bool
  | [] => false
  | f :: fs => holdsSecret f || holdSecret fs
termination_by structural fs => fs

end

end Field

end Intake
