import Intake.Text.Base64
import Intake.Yaml.Tag

/-! The values of scalars. A tag that is written out may meet a text that it does not fit. -/

namespace Intake.Yaml

def boolWords : List (String × Bool) :=
  [("yes", true), ("no", false), ("true", true), ("false", false), ("on", true), ("off", false)]

def boolValue (text : String) : Except Intake.Fault Value :=
  let word := Text.lower text
  match boolWords.find? (·.1 == word) with
  | some w => .ok (.bool w.2)
  | none => .error (.missingKey (.text word))

def readInt (base : Nat) (cs : List Char) : Except Intake.Fault Int :=
  let digits := cs.countP Text.isDecimal
  match Number.readLooseInt? base cs with
  | some n =>
    if base == 10 && Number.digitLimit < digits then .error (.value (.longInteger digits))
    else .ok n
  | none => .error (.value (.integer base (String.ofList cs)))

def sexagesimal (parts : List Int) : Int := parts.foldl (fun n d => n * 60 + d) 0

def splitSign (cs : List Char) : Except Intake.Fault (Bool × List Char) := do
  let cs := cs.filter (· != '_')
  if cs.isEmpty then throw .emptyText
  return Number.readSign cs

/-- `0b` and `0x` announce the bases two and sixteen, and any other zero in front the base eight. -/
def intValue (cs : List Char) : Except Intake.Fault Int := do
  let (negative, cs) ← splitSign cs
  let n ← match cs with
    | [] => throw .emptyText
    | '0' :: 'b' :: ds => readInt 2 ds
    | '0' :: 'x' :: ds => readInt 16 ds
    | ['0'] => pure 0
    | '0' :: _ => readInt 8 cs
    | _ =>
      if cs.contains ':' then sexagesimal <$> (Tag.colonParts cs).mapM (readInt 10)
      else readInt 10 cs
  return if negative then -n else n

def readFloat (cs : List Char) : Except Intake.Fault Number.Binary64 :=
  match Number.readLoose? cs with
  | some x => .ok x
  | none => .error (.value (.number (String.ofList cs)))

/-- The sum of the parts, the last one first, each times a further power of sixty. A power that no
binary number reaches is a fault. -/
def sexagesimalSum : Nat → Number.Binary64 → List Number.Binary64 →
    Except Intake.Fault Number.Binary64
  | _, sum, [] => .ok sum
  | power, sum, x :: xs =>
    let scale := Number.Binary64.ofInt power
    if scale.isInfinite then .error .integerTooLarge
    else sexagesimalSum (power * 60) (sum.add (x.mul scale)) xs

def floatValue (cs : List Char) : Except Intake.Fault Number.Binary64 := do
  let (negative, cs) ← splitSign (Text.lowerChars cs)
  let x ← if cs == ".inf".toList then pure (.infinite false)
    else if cs == ".nan".toList then return .nan
    else if cs.contains ':' then do
      let parts ← (Tag.colonParts cs).mapM readFloat
      sexagesimalSum 1 (.zero false) parts.reverse
    else readFloat cs
  return if negative then x.neg else x

def scalarValue (tag : Tag) (text : String) : Except Fault Value :=
  let scalar {α : Type} : Except Intake.Fault α → Except Fault α := Except.mapError .scalar
  match tag with
  | .null => .ok .null
  | .bool => scalar (boolValue text)
  | .int => .int <$> scalar (intValue text.toList)
  | .float => .float <$> scalar (floatValue text.toList)
  | .timestamp =>
    match Timestamp.ofChars? text.toList with
    | some t => scalar t.value
    | none => .error (.scalar (.missingAttribute "NoneType" "groupdict"))
  | .binary =>
    if text.toList.all (·.toNat < 128) then
      match Text.decodeBase64? text.toList with
      | some bs => .ok (.bytes bs)
      | none => .error .malformed
    else .error .malformed
  | .text => .ok (.text text)
  | _ => .error .malformed

end Intake.Yaml
