import Intake.Field.Document

/-! The short form of choices. A select may list bare values in place of maps; the long form wraps
each of them, and a select whose choices are no list gets an empty one. Fields are found through the
lists of fields of groups. Forms are a list of fields, or a map that has it under the key `fields`;
their choices may be in either form. -/

namespace Intake.Field

namespace Shorthand

def longChoice (v : Value) : Value := if v.isMap then v else .map [(.text "value", v)]

def longChoices (v : Value) : Value :=
  match v with
  | .list xs => .list (xs.map longChoice)
  | _ => .list []

def hasType (name : String) (es : List (Value × Value)) : Bool :=
  Value.equal (Value.fieldD "type" es) (.text name)

mutual

def expand : Value → Value
  | .map es =>
    let es' := if hasType "group" es then expandChildren es else es
    .map (if hasType "select" es then
      Value.setEntry (.text "options") (longChoices (Value.fieldD "options" es')) es' else es')
  | v => v
termination_by structural v => v

def expandChildren : List (Value × Value) → List (Value × Value)
  | [] => []
  | (k, v) :: es =>
    if Value.equal (.text "fields") k then (k, expandList v) :: es else (k, v) :: expandChildren es
termination_by structural es => es

def expandList : Value → Value
  | .list xs => .list (expandAll xs)
  | v => v
termination_by structural v => v

def expandAll : List Value → List Value
  | [] => []
  | x :: xs => expand x :: expandAll xs
termination_by structural xs => xs

end

/-- The long forms of the elements of a value. Only the elements of lists and tuples can be fields;
of what has no elements nothing can be taken unless it is empty. -/
def expandItems (v : Value) : Except Fault Value :=
  if !v.truthy then .ok v
  else match v with
    | .list xs => .ok (.list (expandAll xs))
    | .tuple xs => .ok (.tuple (expandAll xs))
    | v => do
      let _ ← v.items
      return v

end Shorthand

def ofForm (v : Value) : Except Fault (List Field) :=
  let fields := match v with
    | .map es => Value.fieldD "fields" es
    | _ => v
  match fields with
  | .list xs => ofValues (Shorthand.expandAll xs)
  | _ => .error (.definition .form)

end Intake.Field
