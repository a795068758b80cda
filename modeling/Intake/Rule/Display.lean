import Intake.Rule.Bag
import Intake.Value.Display

/-! How rules and bags of rules are written in messages. -/

namespace Intake

namespace Options

def typeName : Options → String
  | .length .. => "LengthRule"
  | .number .. => "NumberRule"
  | .email .. => "EmailRule"
  | .phone .. => "PhoneRule"
  | .address .. => "AddressRule"
  | .file .. => "FileRule"
  | .captcha .. => "ReCaptchaRule"

def labels : Options → List String
  | .length .. => ["min_length", "max_length"]
  | .number .. => ["min", "max"]
  | .email .. => ["restrictions"]
  | .phone .. => ["requirements"]
  | .address .. => ["countries", "states"]
  | .file .. => ["mime_types", "max_bytes"]
  | .captcha .. => ["site_key", "secret"]

end Options

def OptionMap.describe (o : OptionMap) : String :=
  o.options.typeName ++ "(" ++ Value.commaSeparated
    (("extra=" ++ Value.describe (.map o.extra)) ::
      (o.options.labels.zip o.options.named).map fun l => l.1 ++ "=" ++ l.2.2.describe) ++ ")"

def OptionMap.isWritable (o : OptionMap) : Bool :=
  Value.areEntriesWritable o.extra && o.options.named.all (·.2.isWritable)

def OptionMap.written (o : OptionMap) : Except Fault String :=
  if o.isWritable then .ok o.describe else .error (.value .unwritable)

def Rule.describe : Rule → String
  | .plain v => v.describe
  | .options o => o.describe

def RuleBag.describe (b : RuleBag) : String :=
  "Validators(\x7b" ++ Value.commaSeparated
    (b.rules.map fun e => e.1.describe ++ ": " ++ e.2.describe) ++ "\x7d)"

end Intake
