/-! Binary floating-point numbers of 64 bits as sign, mantissa and exponent. Every operation takes
the exact result and rounds it once, to the nearest number and from a tie to the even mantissa. -/

namespace Intake.Number

/-- A finite number is `mantissa * 2 ^ exponent` with its sign; `Binary64.IsCanonical` says which
mantissas and exponents occur. -/
inductive Binary64 where
  | nan
  | infinite (negative : Bool)
  | finite (negative : Bool) (mantissa : Nat) (exponent : Int)
  deriving Repr, DecidableEq, Inhabited

def roundQuotient (num den : Nat) : Nat :=
  let q := num / den
  let r := num % den
  if 2 * r < den then q
  else if den < 2 * r then q + 1
  else if q % 2 == 0 then q else q + 1

def scaleDown (num den : Nat) (e : Int) : Nat × Nat :=
  if 0 ≤ e then (num, den * Nat.pow 2 e.toNat) else (num * Nat.pow 2 (-e).toNat, den)

namespace Binary64

def precision : Nat := 53
def minExponent : Int := -1074
def maxExponent : Int := 971

def IsCanonical : Binary64 → Prop
  | .nan => True
  | .infinite _ => True
  | .finite _ m e => m < Nat.pow 2 precision ∧ minExponent ≤ e ∧ e ≤ maxExponent ∧
      (Nat.pow 2 (precision - 1) ≤ m ∨ e = minExponent)

def zero (negative : Bool) : Binary64 := .finite negative 0 minExponent

/-- The exponent at which the quotient has a mantissa of 53 digits, or the least one. -/
def exponentOf (num den : Nat) : Int :=
  let guess : Int := (Nat.log2 num : Int) - (Nat.log2 den : Int) - precision
  let (n, d) := scaleDown num den guess
  max minExponent (if n / d < Nat.pow 2 precision then guess else guess + 1)

def ofRatio (negative : Bool) (num den : Nat) : Binary64 :=
  if num == 0 then zero negative
  else
    let e := exponentOf num den
    let (n, d) := scaleDown num den e
    let m := roundQuotient n d
    let (m, e) := if m == Nat.pow 2 precision then (Nat.pow 2 (precision - 1), e + 1) else (m, e)
    if maxExponent < e then .infinite negative else .finite negative m e

def ofInt (n : Int) : Binary64 := ofRatio (n < 0) n.natAbs 1

/-- The value `digits * 10 ^ e` with a sign. A huge exponent is decided without the power. -/
def ofDecimal (negative : Bool) (digits : Nat) (e : Int) : Binary64 :=
  if digits == 0 then zero negative
  else if 400 < e then .infinite negative
  else if 0 ≤ e then ofRatio negative (digits * Nat.pow 10 e.toNat) 1
  else if (Nat.log2 digits : Int) + 400 < -e then zero negative
  else ofRatio negative digits (Nat.pow 10 (-e).toNat)

def isNan : Binary64 → Bool
  | .nan => true
  | _ => false

def isInfinite : Binary64 → Bool
  | .infinite _ => true
  | _ => false

def isZero : Binary64 → Bool
  | .finite _ m _ => m == 0
  | _ => false

def neg : Binary64 → Binary64
  | .nan => .nan
  | .infinite s => .infinite !s
  | .finite s m e => .finite (!s) m e

def signed (negative : Bool) (mantissa : Nat) : Int :=
  if negative then -(mantissa : Int) else mantissa

def compareScaled (a : Int) (ea : Int) (b : Int) (eb : Int) : Ordering :=
  let k := min ea eb
  compare (a * Nat.pow 2 (ea - k).toNat) (b * Nat.pow 2 (eb - k).toNat)

def compare? : Binary64 → Binary64 → Option Ordering
  | .nan, _ => none
  | _, .nan => none
  | .infinite s, .infinite t =>
    some (if s == t then .eq else if s then .lt else .gt)
  | .infinite s, .finite .. => some (if s then .lt else .gt)
  | .finite .., .infinite s => some (if s then .gt else .lt)
  | .finite s m e, .finite t n f => some (compareScaled (signed s m) e (signed t n) f)

def compareInt? (n : Int) : Binary64 → Option Ordering
  | .nan => none
  | .infinite s => some (if s then .gt else .lt)
  | .finite s m e => some (compareScaled n 0 (signed s m) e)

def lt (x y : Binary64) : Bool := compare? x y == some .lt
def gt (x y : Binary64) : Bool := compare? x y == some .gt
def eqv (x y : Binary64) : Bool := compare? x y == some .eq

def ofScaled (zeroSign : Bool) (v : Int) (e : Int) : Binary64 :=
  if v == 0 then zero zeroSign
  else if 0 ≤ e then ofRatio (v < 0) (v.natAbs * Nat.pow 2 e.toNat) 1
  else ofRatio (v < 0) v.natAbs (Nat.pow 2 (-e).toNat)

def add : Binary64 → Binary64 → Binary64
  | .nan, _ => .nan
  | _, .nan => .nan
  | .infinite s, .infinite t => if s == t then .infinite s else .nan
  | .infinite s, .finite .. => .infinite s
  | .finite .., .infinite s => .infinite s
  | .finite s m e, .finite t n f =>
    let k := min e f
    let v := signed s m * Nat.pow 2 (e - k).toNat + signed t n * Nat.pow 2 (f - k).toNat
    ofScaled (s && t) v k

def mul : Binary64 → Binary64 → Binary64
  | .nan, _ => .nan
  | _, .nan => .nan
  | .infinite s, .infinite t => .infinite (s != t)
  | .infinite s, .finite t n _ => if n == 0 then .nan else .infinite (s != t)
  | .finite s m _, .infinite t => if m == 0 then .nan else .infinite (s != t)
  | .finite s m e, .finite t n f => ofScaled (s != t) (signed s m * signed t n) (e + f)

def divNat (x : Binary64) (den : Nat) : Binary64 :=
  match x with
  | .finite s m e =>
    if m == 0 then x
    else if 0 ≤ e then ofRatio s (m * Nat.pow 2 e.toNat) den
    else ofRatio s m (den * Nat.pow 2 (-e).toNat)
  | _ => x

def split? : Binary64 → Option (Int × Binary64)
  | .finite s m e =>
    if 0 ≤ e then some (signed s m * Nat.pow 2 e.toNat, zero s)
    else
      let den := Nat.pow 2 (-e).toNat
      some (signed s (m / den), ofRatio s (m % den) den)
  | _ => none

def round? : Binary64 → Option Int
  | .finite s m e =>
    let (n, d) := if 0 ≤ e then (m * Nat.pow 2 e.toNat, 1) else (m, Nat.pow 2 (-e).toNat)
    some (signed s (roundQuotient n d))
  | _ => none

end Binary64

/-- A number of either kind. Any two are compared exactly. -/
inductive Numeric where
  | int (n : Int)
  | float (x : Binary64)
  deriving Repr, DecidableEq

namespace Numeric

def compare? : Numeric → Numeric → Option Ordering
  | .int a, .int b => some (compare a b)
  | .int a, .float y => Binary64.compareInt? a y
  | .float x, .int b => (Binary64.compareInt? b x).map Ordering.swap
  | .float x, .float y => Binary64.compare? x y

def lt (a b : Numeric) : Bool := compare? a b == some .lt
def gt (a b : Numeric) : Bool := compare? a b == some .gt
def eqv (a b : Numeric) : Bool := compare? a b == some .eq

end Numeric

end Intake.Number
