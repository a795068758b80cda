import Intake.Fault
import Intake.Value.Equality

/-! What values offer when they are taken apart: their elements in turn, whether something is among
them, and whether they can be keys or be written in a message. -/

namespace Intake.Value

mutual

def unhashable? : Value → Option String
  | .list _ => some "list"
  | .set _ => some "set"
  | .map _ => some "dict"
  | .answer .. => some "FieldResult"
  | .upload .. => some "UploadedFile"
  | .tuple xs => unhashableAmong? xs
  | _ => none
termination_by structural v => v

def unhashableAmong? : List Value → Option String
  | [] => none
  | x :: xs => (unhashable? x).or (unhashableAmong? xs)
termination_by structural xs => xs

end

def asKey (v : Value) : Except Fault Value :=
  match v.unhashable? with
  | some t => .error (.type (.unhashable t))
  | none => .ok v

def written (v : Value) : Except Fault String :=
  if v.isWritable then .ok v.display else .error (.value .unwritable)

def items : Value → Except Fault (List Value)
  | .list xs => .ok xs
  | .tuple xs => .ok xs
  | .set xs => .ok xs
  | .map es => .ok (es.map (·.1))
  | .text s => .ok (s.toList.map fun c => .text c.toString)
  | .bytes bs => .ok (bs.map fun b => .int b.toNat)
  | v => .error (.type (.notIterable v.longTypeName))

def infixOf {α : Type} [BEq α] (part : List α) : List α → Bool
  | [] => part.isEmpty
  | x :: xs => part.isPrefixOf (x :: xs) || infixOf part xs

def isIn (v : Value) : Value → Except Fault Bool
  | .list xs => .ok (xs.any (equal v))
  | .tuple xs => .ok (xs.any (equal v))
  | .set xs =>
    match v with
    | .set _ => .ok false
    | _ => do return xs.any (equal (← asKey v))
  | .map es => do return containsKey (← asKey v) es
  | .text s =>
    match v with
    | .text t => .ok (infixOf t.toList s.toList)
    | _ => .error (.type (.notText v.longTypeName))
  | .bytes bs =>
    match v with
    | .bytes part => .ok (infixOf part bs)
    | .int n => byteIn n bs
    | .bool b => byteIn (if b then 1 else 0) bs
    | _ => .error (.type (.notBytes v.longTypeName))
  | c => .error (.type (.notContainer c.longTypeName))
where
  byteIn (n : Int) (bs : List UInt8) : Except Fault Bool :=
    if 0 ≤ n ∧ n < 256 then .ok (bs.any fun b => (b.toNat : Int) == n)
    else .error (.value .byteRange)

def greaterThan (v : Value) (bound : Number.Binary64) : Except Fault Bool :=
  match v.numeric? with
  | some r => .ok (r.gt (.float bound))
  | none => .error (.type (.notOrdered ">" v.longTypeName "float"))

end Intake.Value
