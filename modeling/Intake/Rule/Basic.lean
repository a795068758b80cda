import Intake.Value.Equality

/-! The rules of a field: what each kind is called, the options that some kinds take, and how an
options map is read and written. Entries of the map that no option bears the name of are kept. -/

namespace Intake

inductive RuleKind where
  | required
  | string
  | boolean
  | number
  | array
  | minAge
  | values
  | group
  | email
  | phone
  | address
  | file
  | captcha
  deriving Repr, DecidableEq

namespace RuleKind

def name : RuleKind → String
  | .required => "required"
  | .string => "string"
  | .boolean => "boolean"
  | .number => "number"
  | .array => "array"
  | .minAge => "minAge"
  | .values => "values"
  | .group => "group"
  | .email => "email"
  | .phone => "phone"
  | .address => "address"
  | .file => "file"
  | .captcha => "reCaptcha"

def all : List RuleKind :=
  [.required, .string, .boolean, .number, .array, .minAge, .values, .group, .email, .phone,
    .address, .file, .captcha]

theorem mem_all (k : RuleKind) : k ∈ all := by cases k <;> decide

def ofName? (s : String) : Option RuleKind := all.find? (·.name == s)

@[simp, grind =] theorem ofName?_name (k : RuleKind) : ofName? k.name = some k := by cases k <;> rfl

def key (k : RuleKind) : Value := .text k.name

def ofKey? : Value → Option RuleKind
  | .text s => ofName? s
  | _ => none

end RuleKind

inductive Options where
  | length (least greatest : Value)
  | number (least greatest : Value)
  | email (restrictions : Value)
  | phone (requirements : Value)
  | address (countries states : Value)
  | file (mimeTypes maxBytes : Value)
  | captcha (siteKey secret : Value)

def Options.named : Options → List (String × Value)
  | .length a b => [("minLength", a), ("maxLength", b)]
  | .number a b => [("min", a), ("max", b)]
  | .email r => [("restrictions", r)]
  | .phone r => [("requirements", r)]
  | .address c s => [("countries", c), ("states", s)]
  | .file m b => [("mimeTypes", m), ("maxBytes", b)]
  | .captcha k s => [("siteKey", k), ("secret", s)]

structure OptionMap where
  options : Options
  extra : List (Value × Value)

/-- What a rule is set to: an options map or any other value. -/
inductive Rule where
  | plain (v : Value)
  | options (o : OptionMap)

def RuleKind.options? (get : String → Value) : RuleKind → Option Options
  | .string => some (.length (get "minLength") (get "maxLength"))
  | .array => some (.length (get "minLength") (get "maxLength"))
  | .number => some (.number (get "min") (get "max"))
  | .email => some (.email (get "restrictions"))
  | .phone => some (.phone (get "requirements"))
  | .address => some (.address (get "countries") (get "states"))
  | .file => some (.file (get "mimeTypes") (get "maxBytes"))
  | .captcha => some (.captcha (get "siteKey") (get "secret"))
  | _ => none

def Options.declares (o : Options) (key : Value) : Bool :=
  o.named.any fun n => Value.equal (.text n.1) key

/-- A map is an options map where the kind takes options; all else is kept as it is. -/
def Rule.read (kind : Option RuleKind) (raw : Value) : Rule :=
  match raw with
  | .map entries =>
    match kind.bind (RuleKind.options? fun name => Value.fieldD name entries) with
    | some o => .options ⟨o, entries.filter fun e => !o.declares e.1⟩
    | none => .plain raw
  | _ => .plain raw

namespace OptionMap

def given (o : OptionMap) : List (String × Value) := o.options.named.filter fun n => !n.2.isNull

def toEntries (o : OptionMap) : List (Value × Value) :=
  (o.given.map fun n => (Value.text n.1, n.2)) ++ o.extra

def keys (o : OptionMap) : List Value := (o.given.map fun n => Value.text n.1) ++ o.extra.map (·.1)

def equal (a b : OptionMap) : Bool :=
  Value.equal (.map a.extra) (.map b.extra) &&
    match a.options, b.options with
    | .length x y, .length x' y' => x.equal x' && y.equal y'
    | .number x y, .number x' y' => x.equal x' && y.equal y'
    | .email x, .email x' => x.equal x'
    | .phone x, .phone x' => x.equal x'
    | .address x y, .address x' y' => x.equal x' && y.equal y'
    | .file x y, .file x' y' => x.equal x' && y.equal y'
    | .captcha x y, .captcha x' y' => x.equal x' && y.equal y'
    | _, _ => false

end OptionMap

namespace Rule

def toValue : Rule → Value
  | .plain v => v
  | .options o => .map o.toEntries

def truthy : Rule → Bool
  | .plain v => v.truthy
  | .options _ => true

/-- A rule set to true asks for its kind without options. -/
def isTrue : Rule → Bool
  | .plain v => v.isTrue
  | .options _ => false

def isFalse : Rule → Bool
  | .plain v => v.isFalse
  | .options _ => false

def equal : Rule → Rule → Bool
  | .plain v, .plain w => v.equal w
  | .options o, .options p => o.equal p
  | _, _ => false

end Rule

end Intake
