import Intake.Text.Printable

/-! Quoted text. A text is written between single quotes, or between double quotes when it holds a
single quote and no double one; the quote in use, the backslash and what cannot be printed are
escaped. Bytes are written the same way after the letter b, with all but printable ASCII escaped. -/

namespace Intake.Text

def hexDigit (n : Nat) : Char :=
  if n < 10 then Char.ofNat (48 + n) else Char.ofNat (87 + n)

def hex : Nat → Nat → List Char
  | 0, _ => []
  | width + 1, n => hex width (n / 16) ++ [hexDigit (n % 16)]

def quoteFor (cs : List Char) : Char :=
  if cs.contains '\'' && !cs.contains '"' then '"' else '\''

def namedEscape? (quote c : Char) : Option (List Char) :=
  if c == quote || c == '\\' then some ['\\', c]
  else if c == '\n' then some ['\\', 'n']
  else if c == '\r' then some ['\\', 'r']
  else if c == '\t' then some ['\\', 't']
  else none

def numericEscape (n : Nat) : List Char :=
  if n < 0x100 then '\\' :: 'x' :: hex 2 n
  else if n < 0x10000 then '\\' :: 'u' :: hex 4 n
  else '\\' :: 'U' :: hex 8 n

def escaped (s : String) : String :=
  String.ofList (s.toList.flatMap fun c => if c.toNat < 128 then [c] else numericEscape c.toNat)

def quotedChar (quote c : Char) : List Char :=
  match namedEscape? quote c with
  | some e => e
  | none => if isPrintable c then [c] else numericEscape c.toNat

def quotedChars (cs : List Char) : List Char :=
  let q := quoteFor cs
  q :: cs.flatMap (quotedChar q) ++ [q]

def quoted (s : String) : String := String.ofList (quotedChars s.toList)

def quotedByte (quote : Char) (b : UInt8) : List Char :=
  let c := Char.ofNat b.toNat
  match namedEscape? quote c with
  | some e => e
  | none => if 32 ≤ b.toNat && b.toNat < 127 then [c] else numericEscape b.toNat

def quotedBytes (bs : List UInt8) : String :=
  let q := quoteFor (bs.map fun b => Char.ofNat b.toNat)
  String.ofList ('b' :: q :: bs.flatMap (quotedByte q) ++ [q])

end Intake.Text
