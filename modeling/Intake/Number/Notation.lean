import Intake.Number.Shortest

/-! How numbers are written. Integers have their decimal digits; other numbers the shortest digits
that read back, with a point and at least one digit after it when the first digit counts between
ten-thousandths and less than ten quadrillions, and with an exponent else. -/

namespace Intake.Number

def zeros (n : Nat) : List Char := List.replicate n '0'

def positional (digits : List Char) (point : Int) : List Char :=
  if point ≤ 0 then '0' :: '.' :: zeros (-point).toNat ++ digits
  else
    let p := point.toNat
    if digits.length ≤ p then digits ++ zeros (p - digits.length) ++ ['.', '0']
    else digits.take p ++ '.' :: digits.drop p

def scientific (digits : List Char) (point : Int) : List Char :=
  let e := point - 1
  let exponent := Nat.toDigits 10 e.natAbs
  digits.take 1 ++ (if digits.length ≤ 1 then [] else '.' :: digits.drop 1) ++
    ['e', if e < 0 then '-' else '+'] ++ zeros (2 - exponent.length) ++ exponent

def magnitude (m : Nat) (e : Int) : List Char :=
  if m == 0 then ['0', '.', '0']
  else
    let d := shortest m e
    let digits := Nat.toDigits 10 d.digits
    if -4 < d.point && d.point ≤ 16 then positional digits d.point else scientific digits d.point

def Binary64.write : Binary64 → String
  | .nan => "nan"
  | .infinite s => if s then "-inf" else "inf"
  | .finite s m e => String.ofList ((if s then ['-'] else []) ++ magnitude m e)

end Intake.Number
