import Intake.Fault
import Intake.Number.Loose

/-! The exchange with the service that verifies captcha tokens: its settings from the environment,
the replies still to come, the requests made so far and what was logged. Requests take the replies
in order. -/

namespace Intake.Captcha

def defaultUrl : String := "https://www.google.com/recaptcha/api/siteverify"

/-- Where tokens are verified, and how long a client opened for one request waits; null stands for
no limit. -/
structure Settings where
  url : String
  timeout : Value

def Settings.default : Settings := ⟨defaultUrl, .null⟩

def urlVariable : String := "FORMGUARD_RECAPTCHA_VERIFY_URL"
def timeoutVariable : String := "FORMGUARD_RECAPTCHA_TIMEOUT"

def given? (environment : List (String × String)) (name : String) : Option String :=
  ((environment.find? (·.1 == name)).map (·.2)).filter (· != "")

def Settings.ofEnvironment (environment : List (String × String)) : Except Fault Settings := do
  let url := (given? environment urlVariable).getD defaultUrl
  match given? environment timeoutVariable with
  | none => return ⟨url, .null⟩
  | some given =>
    match Number.readLoose? given.toList with
    | some x => return ⟨url, .float x⟩
    | none => throw (.value (.timeout given))

inductive Reply where
  | response (status : Int) (body : List UInt8)
  | failure (text : String)
  | crash (text : String)

structure Request where
  url : String
  body : String
  timeout : Value

inductive LogLevel where
  | info
  | warning
  deriving Repr, DecidableEq

def LogLevel.name : LogLevel → String
  | .info => "INFO"
  | .warning => "WARNING"

structure Exchange where
  replies : List Reply
  requests : List Request
  logs : List (LogLevel × String)

def Exchange.start (replies : List Reply) : Exchange := ⟨replies, [], []⟩

/-- A request is recorded and takes the next reply; without one it fails. -/
def Exchange.post (e : Exchange) (r : Request) : Reply × Exchange :=
  match e.replies with
  | [] => (.failure "no reply", { e with requests := e.requests ++ [r] })
  | reply :: rest => (reply, { e with replies := rest, requests := e.requests ++ [r] })

def Exchange.log (e : Exchange) (level : LogLevel) (message : String) : Exchange :=
  { e with logs := e.logs ++ [(level, message)] }

end Intake.Captcha

namespace Intake

abbrev Run := ExceptT Fault (StateM Captcha.Exchange)

def Run.ofExcept {α : Type} (r : Except Fault α) : Run α :=
  match r with
  | .ok x => pure x
  | .error f => throw f

def Run.orElse {α : Type} (r : Run α) (recover : Fault → α) : Run α :=
  tryCatch r fun f => pure (recover f)

end Intake
