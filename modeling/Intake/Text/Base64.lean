/-! Bytes in base 64. Characters outside of the alphabet are skipped. -/

namespace Intake.Text

def base64Digit? (c : Char) : Option Nat :=
  if c.isUpper then some (c.toNat - 65)
  else if c.isLower then some (c.toNat - 71)
  else if c.isDigit then some (c.toNat + 4)
  else if c == '+' then some 62
  else if c == '/' then some 63
  else none

def base64Bytes? (place carried pads : Nat) : List Char → Option (List UInt8)
  | [] => if place == 0 then some [] else none
  | c :: cs =>
    if c == '=' then
      if 2 ≤ place && 4 ≤ place + pads + 1 then some []
      else base64Bytes? place carried (if 2 ≤ place then pads + 1 else pads) cs
    else match base64Digit? c with
      | none => base64Bytes? place carried pads cs
      | some d =>
        match place with
        | 0 => base64Bytes? 1 d 0 cs
        | 1 => (base64Bytes? 2 (d % 16) 0 cs).map ((carried * 4 + d / 16).toUInt8 :: ·)
        | 2 => (base64Bytes? 3 (d % 4) 0 cs).map ((carried * 16 + d / 4).toUInt8 :: ·)
        | _ => (base64Bytes? 0 0 0 cs).map ((carried * 64 + d).toUInt8 :: ·)

def decodeBase64? (cs : List Char) : Option (List UInt8) := base64Bytes? 0 0 0 cs

end Intake.Text
