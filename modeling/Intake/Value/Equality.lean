import Intake.Value.Basic

/-! When two values are equal. Numbers and booleans are compared as numbers, exactly; lists and
tuples of one kind element by element; sets and maps without regard to order. What is not a number
differs from itself. -/

namespace Intake.Value

mutual

def equal : Value → Value → Bool
  | .null, b => b.isNull
  | .bool x, b => b.numeric?.any (Number.Numeric.eqv (.int (if x then 1 else 0)))
  | .int n, b => b.numeric?.any (Number.Numeric.eqv (.int n))
  | .float x, b => b.numeric?.any (Number.Numeric.eqv (.float x))
  | .text s, b => match b with | .text t => s == t | _ => false
  | .bytes s, b => match b with | .bytes t => s == t | _ => false
  | .date d, b => match b with | .date e => d == e | _ => false
  | .moment m, b => match b with | .moment k => m.eqv k | _ => false
  | .list xs, b => match b with | .list ys => equalLists xs ys | _ => false
  | .tuple xs, b => match b with | .tuple ys => equalLists xs ys | _ => false
  | .set xs, b => match b with
    | .set ys => xs.length == ys.length && membersIn xs ys
    | _ => false
  | .map es, b => match b with
    | .map fs => es.length == fs.length && entriesIn es fs
    | _ => false
  | .answer s v, b => match b with | .answer t w => equal s t && equal v w | _ => false
  | .upload f m s p o, b => match b with
    | .upload f' m' s' p' o' => equal f f' && equal m m' && equal s s' && equal p p' && equal o o'
    | _ => false
termination_by structural a => a

def equalLists : List Value → List Value → Bool
  | [], ys => ys.isEmpty
  | x :: xs, ys => match ys with
    | y :: ys => equal x y && equalLists xs ys
    | [] => false
termination_by structural xs => xs

def membersIn : List Value → List Value → Bool
  | [], _ => true
  | x :: xs, ys => ys.any (equal x) && membersIn xs ys
termination_by structural xs => xs

def entriesIn : List (Value × Value) → List (Value × Value) → Bool
  | [], _ => true
  | (k, v) :: es, fs =>
    (match fs.find? (fun f => equal k f.1) with
      | some f => equal v f.2
      | none => false) && entriesIn es fs
termination_by structural es => es

end

/-- Equality that keeps booleans apart from numbers. -/
def same (a b : Value) : Bool := a.isBool == b.isBool && equal a b

def lookup (key : Value) (entries : List (Value × Value)) : Option Value :=
  (entries.find? fun e => equal key e.1).map (·.2)

def field? (name : String) (entries : List (Value × Value)) : Option Value :=
  lookup (.text name) entries

def fieldD (name : String) (entries : List (Value × Value)) : Value :=
  (field? name entries).getD .null

def containsKey (key : Value) (entries : List (Value × Value)) : Bool :=
  (lookup key entries).isSome

def setEntry {α : Type} (key : Value) (x : α) : List (Value × α) → List (Value × α)
  | [] => [(key, x)]
  | e :: es => if equal key e.1 then (e.1, x) :: es else e :: setEntry key x es

/-- The entries with every key once, each at its first place and with its last value. -/
def ofEntries (entries : List (Value × Value)) : List (Value × Value) :=
  entries.foldl (fun es e => setEntry e.1 e.2 es) []

end Intake.Value
