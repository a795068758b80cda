import Intake.Value.Access

/-! Answers: what is submitted under a slug. The value of an answer to a group is a list of answers,
and it is read as such where every element of a list that is not empty is an answer or a map with
a slug. -/

namespace Intake

structure Answer where
  slug : Value
  value : Value

namespace Answer

def toValue (a : Answer) : Value := .answer a.slug a.value

def looksLikeAnswer : Value → Bool
  | .answer .. => true
  | .map es => (Value.fieldD "slug" es).truthy
  | _ => false

/-- The answers in the value of an answer to a group; none where it is no list of answers. -/
def group? : Value → Option (List Answer)
  | .list xs => xs.mapM fun v => match v with
    | .answer slug value => some ⟨slug, value⟩
    | _ => none
  | _ => none

def isGroup (v : Value) : Bool := (group? v).isSome

mutual

def readValue : Value → Value
  | .list xs =>
    if !xs.isEmpty && xs.all looksLikeAnswer then .list (readAll xs) else .list xs
  | v => v
termination_by structural v => v

def readElement : Value → Value
  | .map es => .answer (Value.fieldD "slug" es) (valueIn es)
  | v => v
termination_by structural v => v

def readAll : List Value → List Value
  | [] => []
  | x :: xs => readElement x :: readAll xs
termination_by structural xs => xs

def valueIn : List (Value × Value) → Value
  | [] => .null
  | (k, v) :: es => if Value.equal (.text "value") k then readValue v else valueIn es
termination_by structural es => es

end

def ofValue : Value → Except Fault Answer
  | .answer slug value => .ok ⟨slug, value⟩
  | .map es => .ok ⟨Value.fieldD "slug" es, valueIn es⟩
  | v => .error (.submission (.answer v))

def ofItems (v : Value) : Except Fault (List Answer) :=
  if v.truthy then do (← v.items).mapM ofValue else .ok []

mutual

def writeValue : Value → Value
  | .list xs => .list (if xs.all Value.isAnswer then writeAll xs else xs)
  | v => v
termination_by structural v => v

def writeAll : List Value → List Value
  | [] => []
  | x :: xs => writeElement x :: writeAll xs
termination_by structural xs => xs

def writeElement : Value → Value
  | .answer slug value => .map [(.text "slug", slug), (.text "value", writeValue value)]
  | v => v
termination_by structural v => v

end

def toDocument (a : Answer) : Value :=
  .map [(.text "slug", a.slug), (.text "value", writeValue a.value)]

mutual

def slugsIn : Value → List Value
  | .answer slug value => slug :: slugsOfValue value
  | _ => []
termination_by structural v => v

def slugsOfValue : Value → List Value
  | .list xs => if xs.all Value.isAnswer then slugsOfAll xs else []
  | _ => []
termination_by structural v => v

def slugsOfAll : List Value → List Value
  | [] => []
  | x :: xs => slugsIn x ++ slugsOfAll xs
termination_by structural xs => xs

end

def slugs (answers : List Answer) : List Value :=
  answers.flatMap fun a => a.slug :: slugsOfValue a.value

end Answer

end Intake
