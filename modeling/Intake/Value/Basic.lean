import Intake.Calendar.Moment
import Intake.Number.Binary64

/-! The values that forms and submissions hold: scalars, dates, lists, sets, maps that remember the
order of their entries, submitted answers and uploads. -/

namespace Intake

/-- The members of a set are taken in the order in which they were added. An answer joins a slug and
a value; an upload has a field name, a media type, a size, a payload and the name of the file. Their
parts may be any values, since they come from unchecked data. -/
inductive Value where
  | null
  | bool (b : Bool)
  | int (n : Int)
  | float (x : Number.Binary64)
  | text (s : String)
  | bytes (bs : List UInt8)
  | date (d : Calendar.Date)
  | moment (m : Calendar.Moment)
  | list (xs : List Value)
  | tuple (xs : List Value)
  | set (xs : List Value)
  | map (entries : List (Value × Value))
  | answer (slug value : Value)
  | upload (fieldName mimetype size payload originalName : Value)
  deriving Inhabited

namespace Value

def typeName : Value → String
  | .null => "NoneType"
  | .bool _ => "bool"
  | .int _ => "int"
  | .float _ => "float"
  | .text _ => "str"
  | .bytes _ => "bytes"
  | .date _ => "date"
  | .moment _ => "datetime"
  | .list _ => "list"
  | .tuple _ => "tuple"
  | .set _ => "set"
  | .map _ => "dict"
  | .answer .. => "FieldResult"
  | .upload .. => "UploadedFile"

def longTypeName : Value → String
  | .date _ => "datetime.date"
  | .moment _ => "datetime.datetime"
  | v => v.typeName

def numeric? : Value → Option Number.Numeric
  | .bool b => some (.int (if b then 1 else 0))
  | .int n => some (.int n)
  | .float x => some (.float x)
  | _ => none

def truthy : Value → Bool
  | .null => false
  | .bool b => b
  | .int n => n != 0
  | .float x => !x.isZero
  | .text s => s != ""
  | .bytes bs => !bs.isEmpty
  | .list xs => !xs.isEmpty
  | .tuple xs => !xs.isEmpty
  | .set xs => !xs.isEmpty
  | .map es => !es.isEmpty
  | _ => true

def isNull : Value → Bool
  | .null => true
  | _ => false

def isBool : Value → Bool
  | .bool _ => true
  | _ => false

def isTrue : Value → Bool
  | .bool b => b
  | _ => false

def isFalse : Value → Bool
  | .bool b => !b
  | _ => false

def isMap : Value → Bool
  | .map _ => true
  | _ => false

def isList : Value → Bool
  | .list _ => true
  | _ => false

def isAnswer : Value → Bool
  | .answer .. => true
  | _ => false

def text? : Value → Option String
  | .text s => some s
  | _ => none

def elements? : Value → Option (List Value)
  | .list xs => some xs
  | .tuple xs => some xs
  | _ => none

end Value

end Intake
