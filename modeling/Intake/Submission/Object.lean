import Intake.Submission.Answer

/-! Answers as an object keyed by slug, where the answers to a group are an object of their own, and
an object as answers. -/

namespace Intake.Submission

mutual

def entriesOf (excluded : Value) (before : List (Value × Value)) :
    List Value → Except Fault (List (Value × Value))
  | [] => .ok before
  | x :: xs => do
    match ← entryOf excluded x with
    | some (slug, value) => entriesOf excluded (Value.setEntry slug value before) xs
    | none => entriesOf excluded before xs
termination_by structural xs => xs

def entryOf (excluded : Value) : Value → Except Fault (Option (Value × Value))
  | .answer slug value => do
    if !slug.truthy then return none
    if ← slug.isIn excluded then return none
    let value ← objectValue excluded value
    return some (← slug.asKey, value)
  | _ => .ok none
termination_by structural v => v

def objectValue (excluded : Value) : Value → Except Fault Value
  | .list xs =>
    if !xs.isEmpty && xs.all Value.isAnswer then
      (fun es => Value.map es) <$> entriesOf excluded [] xs
    else .ok (.list xs)
  | v => .ok v
termination_by structural v => v

end

def toObject (excluded : Value) (answers : List Answer) : Except Fault Value := do
  return .map (← entriesOf excluded [] (answers.map Answer.toValue))

mutual

def answersOf : List (Value × Value) → List Value
  | [] => []
  | (k, v) :: es => .answer k (answerValue v) :: answersOf es
termination_by structural es => es

def answerValue : Value → Value
  | .map es => .list (answersOf es)
  | v => v
termination_by structural v => v

end

def ofEntries (es : List (Value × Value)) : List Answer :=
  es.map fun e => ⟨e.1, answerValue e.2⟩

def ofObject : Value → Except Fault (List Answer)
  | .map es => .ok (ofEntries es)
  | v => .error (.missingAttribute v.longTypeName "items")

end Intake.Submission
