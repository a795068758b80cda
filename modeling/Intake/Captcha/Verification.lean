import Intake.Captcha.Exchange
import Intake.Json.Reader
import Intake.Rule.Display

/-! The check of captcha tokens. A token passes when the service answers with an object that says
success; every failure on the way counts as a token that does not pass. -/

namespace Intake.Captcha

def isUnreserved (b : UInt8) : Bool :=
  let c := Char.ofNat b.toNat
  b < 0x80 && (c.isAlphanum || c == '_' || c == '.' || c == '-' || c == '~')

def encodeByte (b : UInt8) : List Char :=
  if isUnreserved b then [Char.ofNat b.toNat]
  else if b == 0x20 then ['+']
  else '%' :: (Text.hex 2 b.toNat).map Char.toUpper

def formEncode (s : String) : String :=
  String.ofList ((Text.encodeUtf8 s).flatMap encodeByte)

def body (secret token : String) : String :=
  "secret=" ++ formEncode secret ++ "&response=" ++ formEncode token

structure Client where
  settings : Settings
  isShared : Bool

/-- A shared client has no limit of its own. -/
def Client.request (c : Client) (secret token : String) : Request :=
  ⟨c.settings.url, body secret token, if c.isShared then .null else c.settings.timeout⟩

def logLine (level : LogLevel) (message : String) : Run Unit :=
  modify fun e : Exchange => e.log level message

def judge (status : Int) (content : List UInt8) : Run Bool := do
  match Json.readBytes content with
  | .error _ =>
    logLine .warning s!"reCAPTCHA verification returned a non-JSON body (status {status})"
    return false
  | .ok (.map entries) =>
    if (Value.fieldD "success" entries).isTrue then return true
    logLine .info (s!"reCAPTCHA verification rejected (status {status}, error-codes " ++
      (Value.fieldD "error-codes" entries).display ++ ")")
    return false
  | .ok v =>
    logLine .warning ("reCAPTCHA verification returned unexpected JSON: " ++ v.describe)
    return false

def verify (c : Client) (secret token : String) : Run Bool := do
  let reply ← modifyGet fun e : Exchange => e.post (c.request secret token)
  match reply with
  | .response status content => judge status content
  | .failure text =>
    logLine .warning ("reCAPTCHA verification request failed: " ++ text)
    return false
  | .crash text => throw (.clientCrash text)

/-- The secret of a rule; null where it has none. -/
def secretOf : Rule → Except Fault Value
  | .options ⟨.captcha _ secret, _⟩ => .ok secret
  | .options o => .error (.missingAttribute o.options.typeName "secret")
  | .plain .null => .ok .null
  | .plain v => .error (.missingAttribute v.longTypeName "secret")

def usable? : Value → Option String
  | .text s => if s == "" then none else some s
  | _ => none

def check (c : Client) (token : Value) (rule : Rule) : Run (List String) := do
  let missing := if token.truthy then [] else ["No reCaptcha response provided."]
  match usable? (← Run.ofExcept (secretOf rule)) with
  | none => return missing ++ ["ReCaptcha is misconfigured."]
  | some secret =>
    if !token.truthy then return missing
    let token ← Run.ofExcept token.written
    if ← verify c secret token then return []
    return ["ReCaptcha validation failed."]

end Intake.Captcha
