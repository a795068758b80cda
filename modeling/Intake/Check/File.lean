import Intake.Check.Number
import Intake.Submission.Upload

/-! The check of uploaded files: the payload may not be empty, the size not beyond a limit, and the
media type has to be one of those listed. -/

namespace Intake.Check

def fileLimits : Rule → Except Fault (Value × Value)
  | .options ⟨.file mimeTypes maxBytes, _⟩ => .ok (mimeTypes, maxBytes)
  | .options o => .error (.missingAttribute o.options.typeName "max_bytes")
  | .plain .null => .ok (.null, .null)
  | .plain v => .error (.missingAttribute v.longTypeName "max_bytes")

def sizeFits (size maxBytes : Value) : Except Fault Bool := do
  let limit ← maxBytes.toNumber
  if !size.truthy then return false
  match limit with
  | none => return false
  | some limit => return !(← size.greaterThan limit)

def file (upload : Option Upload) (rule : Rule) : Except Fault (List String) := do
  let payload := (upload.map (·.payload)).getD .null
  let size := (upload.map (·.size)).getD .null
  let mimetype := (upload.map (·.mimetype)).getD .null
  let (mimeTypes, maxBytes) ← fileLimits rule
  let tooLarge ← if maxBytes.isNull then pure false else not <$> sizeFits size maxBytes
  let wrongType ← if mimeTypes.isNull then pure false
    else if !mimetype.truthy then pure true
    else not <$> mimetype.isIn mimeTypes
  let sizeMessage ← messageIf tooLarge do
    return s!"File size \"{← size.written}\" exceeds the maximum limit of: " ++
      s!"{← maxBytes.written} bytes"
  let typeMessage ← messageIf wrongType do
    return s!"File has an invalid mime-type: {← mimetype.written}"
  return (if payload.truthy then [] else ["File is empty."]) ++ sizeMessage ++ typeMessage

end Intake.Check
