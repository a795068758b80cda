import Intake.Yaml.Timestamp

/-! The kinds of nodes. A tag is written out, or read off the text of a plain scalar. -/

namespace Intake.Yaml

inductive Tag where
  | null
  | bool
  | int
  | float
  | timestamp
  | binary
  | text
  | sequence
  | mapping
  | orderedMap
  | pairs
  | set
  | merge
  | value
  | unknown
  deriving Repr, DecidableEq

namespace Tag

def stem : String := "tag:yaml.org,2002:"

def names : List (String × Tag) :=
  [("null", .null), ("bool", .bool), ("int", .int), ("float", .float), ("timestamp", .timestamp),
    ("binary", .binary), ("str", .text), ("seq", .sequence), ("map", .mapping),
    ("omap", .orderedMap), ("pairs", .pairs), ("set", .set), ("merge", .merge),
    ("value", .value)]

def ofUri (uri : String) : Tag :=
  ((names.find? fun n => stem ++ n.1 == uri).map (·.2)).getD .unknown

/-! ### Plain scalars -/

def isWord (word : String) (cs : List Char) : Bool :=
  let ls := word.toList
  cs == ls || cs == ls.map Char.toUpper ||
    cs == (ls.take 1).map Char.toUpper ++ ls.drop 1

def isBool (cs : List Char) : Bool :=
  ["yes", "no", "true", "false", "on", "off"].any (isWord · cs)

def isNull (cs : List Char) : Bool := cs.isEmpty || cs == ['~'] || isWord "null" cs

def dropSign (cs : List Char) : List Char := (Number.readSign cs).2

def isDigits (digit : Char → Bool) (cs : List Char) : Bool :=
  !cs.isEmpty && cs.all fun c => digit c || c == '_'

def isDecimal (cs : List Char) : Bool :=
  cs.head?.any Char.isDigit && isDigits Char.isDigit cs

def isSixtieth (cs : List Char) : Bool :=
  match cs with
  | [d] => d.isDigit
  | [c, d] => '0' ≤ c && c ≤ '5' && d.isDigit
  | _ => false

def colonParts (cs : List Char) : List (List Char) := cs.splitOn ':'

def isSexagesimal (cs : List Char) : Bool :=
  match colonParts cs with
  | first :: second :: rest => isDecimal first && (second :: rest).all isSixtieth
  | _ => false

def isOctal (c : Char) : Bool := '0' ≤ c && c ≤ '7'

def isInt (cs : List Char) : Bool :=
  match dropSign cs with
  | '0' :: 'b' :: ds => isDigits (fun c => c == '0' || c == '1') ds
  | '0' :: 'x' :: ds => isDigits (fun c => (Number.digitIn? 16 c).isSome) ds
  | '0' :: ds => ds.isEmpty || isDigits isOctal ds
  | ds => isDecimal ds || isSexagesimal ds

def isExponent : List Char → Bool
  | [] => true
  | e :: sign :: ds =>
    (e == 'e' || e == 'E') && (sign == '+' || sign == '-') && !ds.isEmpty && ds.all Char.isDigit
  | _ => false

def isFraction (cs : List Char) : Bool :=
  isExponent (cs.dropWhile fun c => c.isDigit || c == '_')

def isFloat (cs : List Char) : Bool :=
  let ds := dropSign cs
  let whole := ds.takeWhile (· != '.')
  match ds.dropWhile (· != '.') with
  | '.' :: rest =>
    if whole.isEmpty then
      isWord "inf" rest || (ds == cs && (rest == "nan".toList || rest == "NaN".toList ||
        rest == "NAN".toList || (rest.head?.any Char.isDigit && isFraction rest)))
    else (isDecimal whole && isFraction rest) ||
      (isSexagesimal whole && rest.all fun c => c.isDigit || c == '_')
  | _ => false

def isTimestamp (cs : List Char) : Bool :=
  match Timestamp.ofChars? cs with
  | some t => t.time.isSome || cs.length == 10
  | none => false

/-- The tag of a plain scalar. A line feed at its end does not count. -/
def ofPlain (cs : List Char) : Tag :=
  let cs := if 1 < cs.length && cs.getLast? == some '\n' then cs.dropLast else cs
  if isBool cs then .bool
  else if isFloat cs then .float
  else if isInt cs then .int
  else if cs == ['<', '<'] then .merge
  else if isNull cs then .null
  else if isTimestamp cs then .timestamp
  else if cs == ['='] then .value
  else .text

end Tag

end Intake.Yaml
