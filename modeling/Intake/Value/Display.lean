import Intake.Value.Basic
import Intake.Number.Notation
import Intake.Number.Numeral
import Intake.Text.Quoted

/-! How values are written in messages. On its own a text stands as it is and a date in its ISO
form; inside a collection, an answer or an upload texts are quoted and dates are written as the
expressions that build them. Integers beyond a number of digits are not written at all. -/

namespace Intake.Value

def commaSeparated (parts : List String) : String := ", ".intercalate parts

mutual

def describe : Value → String
  | .null => "None"
  | .bool b => if b then "True" else "False"
  | .int n => toString n
  | .float x => x.write
  | .text s => Text.quoted s
  | .bytes bs => Text.quotedBytes bs
  | .date d => s!"datetime.date({d.year}, {d.month}, {d.day})"
  | .moment m => m.describe
  | .list xs => "[" ++ commaSeparated (describeAll xs) ++ "]"
  | .tuple xs => match describeAll xs with
    | [x] => "(" ++ x ++ ",)"
    | parts => "(" ++ commaSeparated parts ++ ")"
  | .set xs => match describeAll xs with
    | [] => "set()"
    | parts => "\x7b" ++ commaSeparated parts ++ "\x7d"
  | .map es => "\x7b" ++ commaSeparated (describeEntries es) ++ "\x7d"
  | .answer slug value =>
    "FieldResult(slug=" ++ describe slug ++ ", value=" ++ describe value ++ ")"
  | .upload name mimetype size payload original =>
    "UploadedFile(field_name=" ++ describe name ++ ", mimetype=" ++ describe mimetype ++
      ", size=" ++ describe size ++ ", payload=" ++ describe payload ++
      ", original_name=" ++ describe original ++ ")"
termination_by structural v => v

def describeAll : List Value → List String
  | [] => []
  | x :: xs => describe x :: describeAll xs
termination_by structural xs => xs

def describeEntries : List (Value × Value) → List String
  | [] => []
  | (k, v) :: es => (describe k ++ ": " ++ describe v) :: describeEntries es
termination_by structural es => es

end

mutual

/-- No integer in a value has more digits than are written. -/
def isWritable : Value → Bool
  | .int n => n.natAbs < Nat.pow 10 Number.digitLimit
  | .list xs => areWritable xs
  | .tuple xs => areWritable xs
  | .set xs => areWritable xs
  | .map es => areEntriesWritable es
  | .answer slug value => isWritable slug && isWritable value
  | .upload name mimetype size payload original =>
    isWritable name && isWritable mimetype && isWritable size && isWritable payload &&
      isWritable original
  | _ => true
termination_by structural v => v

def areWritable : List Value → Bool
  | [] => true
  | x :: xs => isWritable x && areWritable xs
termination_by structural xs => xs

def areEntriesWritable : List (Value × Value) → Bool
  | [] => true
  | (k, v) :: es => isWritable k && isWritable v && areEntriesWritable es
termination_by structural es => es

end

def display : Value → String
  | .text s => s
  | .date d => d.write
  | .moment m => m.write " "
  | v => v.describe

end Intake.Value
