import Intake.Number.Binary64

/-! The fewest decimal digits that read back as a given binary number, and of those the nearest. -/

namespace Intake.Number

structure ShortDecimal where
  digits : Nat
  count : Nat
  point : Int
  deriving Repr, DecidableEq

def digitCount (n : Nat) : Nat := (Nat.toDigits 10 n).length

def zerosAfterPoint (num den : Nat) : Nat → Nat
  | 0 => 0
  | fuel + 1 => if den ≤ num * 10 then 0 else zerosAfterPoint (num * 10) den fuel + 1

def pointOf (num den : Nat) : Int :=
  if den ≤ num then digitCount (num / den) else -(zerosAfterPoint num den 400 : Int)

/-- The half-open or closed interval of quotients, over the denominator of the number itself, that
round to one binary number. -/
structure RoundingInterval where
  low : Nat
  value : Nat
  high : Nat
  den : Nat
  closed : Bool
  deriving Repr, DecidableEq

/-- The numbers that round to `m * 2 ^ e`: up to half the gap on both sides, where the gap below a
power of two is half of the one above. -/
def RoundingInterval.of (m : Nat) (e : Int) : RoundingInterval :=
  let below := if m == Nat.pow 2 52 && Binary64.minExponent < e then 1 else 2
  let s := if 0 ≤ e then Nat.pow 2 e.toNat else 1
  let den := if 0 ≤ e then 4 else 4 * Nat.pow 2 (-e).toNat
  ⟨(4 * m - below) * s, 4 * m * s, (4 * m + 2) * s, den, m % 2 == 0⟩

def RoundingInterval.admits (i : RoundingInterval) (up down c : Nat) : Bool :=
  let x := c * i.den * up
  if i.closed then i.low * down ≤ x && x ≤ i.high * down
  else i.low * down < x && x < i.high * down

/-- The neighbour of the value on the grid of `count` digits that reads back, the nearer of two. -/
def RoundingInterval.digitsAt? (i : RoundingInterval) (point : Int) (count : Nat) : Option Nat :=
  let p := point - count
  let up := if 0 ≤ p then Nat.pow 10 p.toNat else 1
  let down := if 0 ≤ p then 1 else Nat.pow 10 (-p).toNat
  let num := i.value * down
  let den := i.den * up
  let c := num / den
  let r := num % den
  match i.admits up down c, i.admits up down (c + 1) with
  | true, true =>
    some (if 2 * r < den then c else if den < 2 * r then c + 1 else if c % 2 == 0 then c else c + 1)
  | true, false => some c
  | false, true => some (c + 1)
  | false, false => none

def shortestFrom (i : RoundingInterval) (point : Int) (count : Nat) : Nat → ShortDecimal
  | 0 => ⟨roundQuotient (i.value * Nat.pow 10 count) (i.den * Nat.pow 10 point.toNat), count, point⟩
  | fuel + 1 =>
    match i.digitsAt? point count with
    | some d =>
      if d == Nat.pow 10 count then ⟨1, 1, point + 1⟩ else ⟨d, count, point⟩
    | none => shortestFrom i point (count + 1) fuel

def shortest (m : Nat) (e : Int) : ShortDecimal :=
  let i := RoundingInterval.of m e
  shortestFrom i (pointOf i.value i.den) 1 17

end Intake.Number
