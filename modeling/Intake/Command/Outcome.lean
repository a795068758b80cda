import Intake.Command.Call
import Intake.Definition.Fields
import Intake.Field.Paths
import Intake.Field.Redaction
import Intake.Folder.Loading
import Intake.Json.Printer
import Intake.Text.Names
import Intake.Text.Terminal
import Intake.Validation.Form

/-! What the commands do: checking a form, validating a submission against a form, and publishing a
form without its secrets. -/

namespace Intake.Command

structure Outcome where
  status : Nat
  output : String
  errors : String
  crash : Option Fault

namespace Outcome

def done (output : String) : Outcome := ⟨0, output, "", none⟩

def refused (output : String) : Outcome := ⟨1, output, "", none⟩

def failed (message : String) : Outcome := ⟨1, "", s!"Error: {message}\n", none⟩

def misused (f : UsageFault) : Outcome := ⟨2, "", f.report ++ "\n", none⟩

def crashed (f : Fault) : Outcome := ⟨1, "", "", some f⟩

def ofFault : Fault → Outcome
  | .definition c => failed c.message
  | .submission c => failed c.message
  | f => crashed f

end Outcome

def Outcome.plain (o : Outcome) : Outcome :=
  { o with
    output := String.ofList (Text.withoutSequences o.output.toList)
    errors := String.ofList (Text.withoutSequences o.errors.toList) }

abbrev Working := ExceptT Outcome (StateM Captcha.Exchange)

def orStop {α : Type} (stop : Fault → Outcome) (r : Except Fault α) : Working α :=
  match r with
  | .ok x => pure x
  | .error f => throw (stop f)

def orMisused {α : Type} (r : Reading α) : Working α :=
  match r with
  | .ok x => pure x
  | .error f => throw (.misused f)

def failureLine (f : Failure) : String :=
  let code := if f.code == "" then "ERROR" else f.code
  s!"[{code}] {f.message}\n"

def reportText (r : Report) (label : String) : String :=
  String.join (r.failures.map failureLine) ++
    s!"\n{r.failures.length} {label} error(s) found\n"

def checkForm (folder : Folder) (path : String) : Working Outcome := do
  let fields ← orStop .ofFault (folder.form path)
  let report ← orStop .crashed (Definition.checkFields Text.codeOfName? true fields)
  if !report.isValid then return .refused (reportText report "schema")
  let paths := Field.filePathsOf "" fields
  return .done (s!"Loaded {fields.length} top-level field(s):\n" ++
    String.join (fields.map fun f => s!"  ✓ {f.slug.display} ({f.typeValue.display})\n") ++
    (if paths.isEmpty then "" else "File fields: " ++ ", ".intercalate paths ++ "\n") ++
    "\nForm definition is valid.\n")

def captchaSlugs (fields : List Field) : List Value :=
  (fields.filter Field.isCaptcha).map Field.slug

def exported (fields : List Field) (answers : List Answer) : Except Fault Value :=
  Submission.toObject (.list (captchaSlugs fields)) answers

def reportDocument (fields : List Field) (answers : List Answer) (r : Report) :
    Except Fault String := do
  let data ← if r.isValid then do
      let data ← exported fields answers
      pure [(Value.text "data", data)]
    else pure []
  Json.printLenient (.map (r.toEntries ++ data))

/-- Validates a submission with its uploads. The captcha service is asked by a client of its own. -/
def validate (folder : Folder) (environment : List (String × String)) (today : Calendar.Date)
    (form submission : String) (uploads : List String) (asJson : Bool) : Working Outcome := do
  let fields ← orStop .ofFault (folder.form form)
  let answers ← orStop .ofFault (folder.submission submission)
  let uploads ← orMisused (uploads.mapM (readUpload folder))
  let settings ← orStop (.failed ·.message) (Captcha.Settings.ofEnvironment environment)
  let context : Validation.Context := ⟨today, ⟨settings, false⟩, Text.codeOfName?⟩
  let checked ← (Validation.check context answers fields uploads).run
  let report ← orStop .crashed checked
  if asJson then
    let text ← orStop .crashed (reportDocument fields answers report)
    return if report.isValid then .done (text ++ "\n") else .refused (text ++ "\n")
  else if report.isValid then return .done "Submission is valid.\n"
  else return .refused (reportText report "submission")

def published (fields : List Field) : Except Fault String :=
  Json.print (.list ((Field.redactAll fields).map Field.toValue))

def publish (folder : Folder) (path : String) : Working Outcome := do
  let fields ← orStop .ofFault (folder.form path)
  return .done ((← orStop .crashed (published fields)) ++ "\n")

def perform (folder : Folder) (environment : List (String × String)) (today : Calendar.Date)
    (args : List String) : Working Outcome := do
  match ← orMisused (Call.ofArguments folder environment args) with
  | .check form => checkForm folder form
  | .validate form submission uploads asJson =>
    validate folder environment today form submission uploads asJson
  | .publish form => publish folder form

def run (folder : Folder) (environment : List (String × String)) (today : Calendar.Date)
    (replies : List Captcha.Reply) (args : List String) : Outcome × Captcha.Exchange :=
  let (r, e) := ((perform folder environment today args).run).run (.start replies)
  match r with
  | .ok o => (o.plain, e)
  | .error o => (o.plain, e)

end Intake.Command
