import Intake.Value.Access

/-! Uploaded files: the field they belong to, their media type, size, payload and original name. -/

namespace Intake

structure Upload where
  fieldName : Value
  mimetype : Value
  size : Value
  payload : Value
  originalName : Value

namespace Upload

def toValue (u : Upload) : Value :=
  .upload u.fieldName u.mimetype u.size u.payload u.originalName

def eitherName (name other : String) (default : Value) (es : List (Value × Value)) : Value :=
  ((Value.field? name es).or (Value.field? other es)).getD default

def ofValue : Value → Except Fault Upload
  | .upload f m s p o => .ok ⟨f, m, s, p, o⟩
  | .map es => .ok
    { fieldName := eitherName "fieldName" "fieldname" (.text "") es
      mimetype := Value.fieldD "mimetype" es
      size := Value.fieldD "size" es
      payload := eitherName "payload" "buffer" .null es
      originalName := eitherName "originalName" "originalname" .null es }
  | v => .error (.submission (.upload v))

def ofItems (v : Value) : Except Fault (List Upload) :=
  if v.truthy then do (← v.items).mapM ofValue else .ok []

end Upload

end Intake
