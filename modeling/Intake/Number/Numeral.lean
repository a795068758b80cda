import Intake.Number.Binary64

/-! Numerals in text: an optional sign, digits with an optional point and fraction or a point with
a fraction, and an optional exponent; or the word Infinity. Only ASCII digits count. -/

namespace Intake.Number

structure Numeral where
  negative : Bool
  whole : List Char
  fraction : List Char
  exponent : Int
  deriving Repr, DecidableEq

def digitValue (c : Char) : Nat := c.toNat - '0'.toNat

/-- Integers may have this many decimal digits. -/
def digitLimit : Nat := 4300

def tooManyDigits (digits : Nat) : String :=
  "Exceeds the limit (4300 digits) for integer string conversion: value has " ++
    s!"{digits} digits; use sys.set_int_max_str_digits() to increase the limit"

def unwritable : String :=
  "Exceeds the limit (4300 digits) for integer string conversion; " ++
    "use sys.set_int_max_str_digits() to increase the limit"

def ofDigits (ds : List Char) : Nat := ds.foldl (fun n d => n * 10 + digitValue d) 0

def Numeral.value (n : Numeral) : Binary64 :=
  Binary64.ofDecimal n.negative (ofDigits (n.whole ++ n.fraction)) (n.exponent - n.fraction.length)

def readSign : List Char → Bool × List Char
  | '-' :: cs => (true, cs)
  | '+' :: cs => (false, cs)
  | cs => (false, cs)

def readExponent? : List Char → Option Int
  | [] => some 0
  | c :: cs =>
    if c == 'e' || c == 'E' then
      let (negative, ds) := readSign cs
      if ds.isEmpty || !ds.all Char.isDigit then none
      else some (Binary64.signed negative (ofDigits ds))
    else none

def readNumeral? (cs : List Char) : Option Numeral :=
  let (negative, cs) := readSign cs
  let whole := cs.takeWhile Char.isDigit
  match cs.dropWhile Char.isDigit with
  | '.' :: rest =>
    let fraction := rest.takeWhile Char.isDigit
    if whole.isEmpty && fraction.isEmpty then none
    else (readExponent? (rest.dropWhile Char.isDigit)).map (⟨negative, whole, fraction, ·⟩)
  | rest =>
    if whole.isEmpty then none
    else (readExponent? rest).map (⟨negative, whole, [], ·⟩)

def infinityWord : List Char := ['I', 'n', 'f', 'i', 'n', 'i', 't', 'y']

def readNumber? (cs : List Char) : Option Binary64 :=
  let (negative, rest) := readSign cs
  if rest == infinityWord then some (.infinite negative)
  else (readNumeral? cs).map Numeral.value

end Intake.Number
