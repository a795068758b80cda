import Intake.Field.Shorthand
import Intake.Folder.Basic
import Intake.Submission.Shape
import Intake.Yaml.NodeValue

/-! Loading forms and submissions from files, which hold YAML or JSON in UTF-8. -/

namespace Intake.Folder

/-- Line ends of two characters, and carriage returns, become line feeds. -/
def plainLines : List Char → List Char
  | [] => []
  | '\r' :: '\n' :: cs => '\n' :: plainLines cs
  | '\r' :: cs => '\n' :: plainLines cs
  | c :: cs => c :: plainLines cs

def document (f : Folder) (wrap : String → LoadCause → Fault) (path : String) :
    Except Fault Value := do
  let path := Path.tidy path
  let bytes ← match f.find path with
    | .file bs => pure bs
    | .missing => throw (wrap path .missing)
    | .directory => throw (wrap path .directory)
    | .throughFile => throw (wrap path .throughFile)
  let cs ← (Text.decodeUtf8 bytes).mapError Fault.decoding
  match Yaml.read (plainLines cs) with
  | .ok .null => throw (wrap path .blank)
  | .ok v => return v
  | .error .malformed => throw (wrap path .malformed)
  | .error (.scalar fault) => throw fault

def form (f : Folder) (path : String) : Except Fault (List Field) := do
  Field.ofForm (← f.document (fun p c => .definition (.load p c)) path)

def submission (f : Folder) (path : String) : Except Fault (List Answer) := do
  Submission.ofDocument (← f.document (fun p c => .submission (.load p c)) path)

end Intake.Folder
