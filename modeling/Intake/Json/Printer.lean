import Intake.Value.Access

/-! Printing JSON with two blanks for each level. Only ASCII characters are written; all others are
escaped as UTF-16 units. -/

namespace Intake.Json

def units (n : Nat) : List Nat :=
  if n < 0x10000 then [n]
  else [0xD800 + (n - 0x10000) / 1024, 0xDC00 + (n - 0x10000) % 1024]

def escapedChar (c : Char) : List Char :=
  if c == '"' || c == '\\' then ['\\', c]
  else if c == '\n' then ['\\', 'n']
  else if c == '\r' then ['\\', 'r']
  else if c == '\t' then ['\\', 't']
  else if c == '\x08' then ['\\', 'b']
  else if c == '\x0c' then ['\\', 'f']
  else if 32 ≤ c.toNat && c.toNat < 127 then [c]
  else (units c.toNat).flatMap fun n => '\\' :: 'u' :: Text.hex 4 n

def quotedText (s : String) : String :=
  String.ofList ('"' :: s.toList.flatMap escapedChar ++ ['"'])

def number (x : Number.Binary64) : String :=
  match x with
  | .nan => "NaN"
  | .infinite s => if s then "-Infinity" else "Infinity"
  | x => x.write

def indentation (level : Nat) : String := String.ofList ('\n' :: List.replicate (2 * level) ' ')

def keyText : Value → Except Intake.Fault String
  | .text s => .ok s
  | .float x => .ok (number x)
  | .bool b => .ok (if b then "true" else "false")
  | .null => .ok "null"
  | .int n => (Value.int n).written
  | k => .error (.type (.badKey k.typeName))

/-- A value that has no form of its own: its text where that is allowed, and a fault else. -/
def foreign (lenient : Bool) (v : Value) : Except Intake.Fault String :=
  if lenient then quotedText <$> v.written else .error (.type (.notSerializable v.typeName))

def block (left right : String) (level : Nat) (parts : List String) : String :=
  if parts.isEmpty then left ++ right
  else left ++ indentation (level + 1) ++ ("," ++ indentation (level + 1)).intercalate parts ++
    indentation level ++ right

mutual

def printAt (lenient : Bool) (level : Nat) : Value → Except Intake.Fault String
  | .null => .ok "null"
  | .bool b => .ok (if b then "true" else "false")
  | .int n => (Value.int n).written
  | .float x => .ok (number x)
  | .text s => .ok (quotedText s)
  | .list xs => block "[" "]" level <$> printElements lenient (level + 1) xs
  | .tuple xs => block "[" "]" level <$> printElements lenient (level + 1) xs
  | .map es => block "\x7b" "\x7d" level <$> printEntries lenient (level + 1) es
  | .bytes bs => foreign lenient (.bytes bs)
  | .date d => foreign lenient (.date d)
  | .moment m => foreign lenient (.moment m)
  | .set xs => foreign lenient (.set xs)
  | .answer s v => foreign lenient (.answer s v)
  | .upload f m s p o => foreign lenient (.upload f m s p o)
termination_by structural v => v

def printElements (lenient : Bool) (level : Nat) : List Value → Except Intake.Fault (List String)
  | [] => .ok []
  | x :: xs => do
    let part ← printAt lenient level x
    return part :: (← printElements lenient level xs)
termination_by structural xs => xs

def printEntries (lenient : Bool) (level : Nat) :
    List (Value × Value) → Except Intake.Fault (List String)
  | [] => .ok []
  | (k, v) :: es => do
    let key ← keyText k
    let part ← printAt lenient level v
    return (quotedText key ++ ": " ++ part) :: (← printEntries lenient level es)
termination_by structural es => es

end

def print (v : Value) : Except Intake.Fault String := printAt false 0 v

def printLenient (v : Value) : Except Intake.Fault String := printAt true 0 v

end Intake.Json
