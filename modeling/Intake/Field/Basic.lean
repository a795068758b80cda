import Intake.Rule.Bag

/-! The fields of a form. Groups have fields of their own and selects have choices; a field whose
type is not known keeps the type as it was given. -/

namespace Intake

inductive LeafType where
  | text
  | checkbox
  | hidden
  | captcha
  | email
  | phone
  | state
  | date
  | file
  deriving Repr, DecidableEq

inductive FieldType where
  | group
  | select
  | leaf (t : LeafType)
  deriving Repr, DecidableEq

namespace FieldType

def name : FieldType → String
  | .group => "group"
  | .select => "select"
  | .leaf .text => "text"
  | .leaf .checkbox => "checkbox"
  | .leaf .hidden => "hidden"
  | .leaf .captcha => "recaptcha"
  | .leaf .email => "email"
  | .leaf .phone => "phone"
  | .leaf .state => "state"
  | .leaf .date => "date"
  | .leaf .file => "file"

def all : List FieldType :=
  [.group, .leaf .text, .leaf .checkbox, .select, .leaf .hidden, .leaf .captcha, .leaf .email,
    .leaf .phone, .leaf .state, .leaf .date, .leaf .file]

theorem mem_all (t : FieldType) : t ∈ all := by
  cases t with
  | group => decide
  | select => decide
  | leaf t => cases t <;> decide

def ofValue? : Value → Option FieldType
  | .text s => all.find? (·.name == s)
  | _ => none

@[simp, grind =] theorem ofValue?_name (t : FieldType) : ofValue? (.text t.name) = some t := by
  cases t with
  | group => rfl
  | select => rfl
  | leaf t => cases t <;> rfl

end FieldType

structure Choice where
  value : Value
  name : Value

/-- What every field has. Null stands for what is not given. -/
structure Attributes where
  slug : Value
  displayName : Value
  description : Value
  placeholder : Value
  initial : Value
  suggestions : List Choice
  allowMultiple : Bool
  rules : Option RuleBag
  isPublic : Bool

inductive Field where
  | leaf (type : LeafType) (a : Attributes)
  | unknown (type : Value) (a : Attributes)
  | group (a : Attributes) (children : List Field)
  | select (a : Attributes) (choices : List Choice)

namespace Field

def attributes : Field → Attributes
  | .leaf _ a => a
  | .unknown _ a => a
  | .group a _ => a
  | .select a _ => a

def slug (f : Field) : Value := f.attributes.slug

def type? : Field → Option FieldType
  | .leaf t _ => some (.leaf t)
  | .unknown .. => none
  | .group .. => some .group
  | .select .. => some .select

def typeValue : Field → Value
  | .leaf t _ => .text (FieldType.name (.leaf t))
  | .unknown v _ => v
  | .group .. => .text FieldType.group.name
  | .select .. => .text FieldType.select.name

def rules (f : Field) : Option RuleBag := f.attributes.rules

def isCaptcha : Field → Bool
  | .leaf .captcha _ => true
  | _ => false

def isFile : Field → Bool
  | .leaf .file _ => true
  | _ => false

mutual

def slugs : Field → List Value
  | .leaf _ a => [a.slug]
  | .unknown _ a => [a.slug]
  | .select a _ => [a.slug]
  | .group a children => a.slug :: slugsOf children
termination_by structural f => f

def slugsOf : List Field → List Value
  | [] => []
  | f :: fs => slugs f ++ slugsOf fs
termination_by structural fs => fs

end

end Field

end Intake
