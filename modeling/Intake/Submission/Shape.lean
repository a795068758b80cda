import Intake.Json.Reader
import Intake.Submission.Object
import Intake.Submission.Schema
import Intake.Validation.Failure

/-! The shape of a submission: a list of maps with a slug and perhaps a value, where a value is a
scalar, any map, or a list of scalars and of such maps. Texts and bytes are read as JSON first, and
what is wrong is told by the schema of submissions. In documents submissions are a list of answers,
a map that has it under the key `input`, or an object keyed by slug. -/

namespace Intake.Submission

def isScalar : Value → Bool
  | .null => true
  | .bool _ => true
  | .int _ => true
  | .float _ => true
  | .text _ => true
  | _ => false

def namesSlug (es : List (Value × Value)) : Bool :=
  match Value.field? "slug" es with
  | some (.text s) => s != ""
  | _ => false

mutual

def isAnswerShape : Value → Bool
  | .map es => namesSlug es && hasValueShape es
  | _ => false
termination_by structural v => v

def hasValueShape : List (Value × Value) → Bool
  | [] => true
  | (k, v) :: es => if Value.equal (.text "value") k then isValueShape v else hasValueShape es
termination_by structural es => es

def isValueShape : Value → Bool
  | .list xs => areElementShapes xs
  | .map _ => true
  | v => isScalar v
termination_by structural v => v

def areElementShapes : List Value → Bool
  | [] => true
  | x :: xs => (isScalar x || isAnswerShape x) && areElementShapes xs
termination_by structural xs => xs

end

def Issue.display (i : Issue) : String :=
  "Submission is not a list of field results" ++ (if i.path == "" then "" else " at " ++ i.path) ++
    ": " ++ i.message

def itemIssues (position : Nat) (item : Value) : List Issue :=
  (Schema.reference "fieldResult").issues s!"[{position}]" item

def issues (v : Value) : List Issue :=
  (submissionSchema.issues "" v).mergeSort fun a b => decide (a.path ≤ b.path)

def decode : Value → Except Json.Fault Value
  | .text s => Json.readChars s.toList
  | .bytes bs => Json.readBytes bs
  | v => .ok v

def shapeFailure (message : String) : Failure := ⟨.null, message, "INVALID_SUBMISSION"⟩

def shapeFailures (value : Value) (isOptional : Bool) : List Failure :=
  if isOptional && !value.truthy then []
  else match decode value with
    | .error f => [shapeFailure ("Submission is not valid JSON: " ++ f.message)]
    | .ok v => (issues v).map fun i => shapeFailure i.display

def ofList (v : Value) : Except Fault (List Answer) := do
  let failures := shapeFailures v false
  if !failures.isEmpty then throw (.submission (.shape (failures.map (·.message))))
  Answer.ofItems v

def ofDocument (v : Value) : Except Fault (List Answer) :=
  match v with
  | .map es =>
    match Value.field? "input" es with
    | some input => ofList input
    | none => .ok (ofEntries es)
  | _ => ofList v

end Intake.Submission
