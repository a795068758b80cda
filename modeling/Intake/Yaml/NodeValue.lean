import Intake.Value.Equality
import Intake.Yaml.Node
import Intake.Yaml.ScalarValue

/-! The values of nodes, and of documents of YAML 1.1, of which JSON is nearly a part. Of several
faults in a tree the one nearest to the root counts, and of those at one depth the first. -/

namespace Intake.Yaml

/-- A fault and how far below a node it lies. -/
structure Buried where
  depth : Nat
  fault : Fault

abbrev Evaluated := Except Buried

namespace Evaluated

def here {α : Type} (r : Except Fault α) : Evaluated α := r.mapError (⟨0, ·⟩)

def malformed {α : Type} : Evaluated α := here (.error .malformed)

def below {α : Type} (r : Evaluated α) : Evaluated α :=
  r.mapError fun b => { b with depth := b.depth + 1 }

def both {α β : Type} (a : Evaluated α) (b : Evaluated β) : Evaluated (α × β) :=
  match a, b with
  | .ok x, .ok y => .ok (x, y)
  | .error e, .error f => .error (if f.depth < e.depth then f else e)
  | .error e, .ok _ => .error e
  | .ok _, .error f => .error f

end Evaluated

namespace Node

open Evaluated

mutual

def text? : Node → Option String
  | .scalar _ text => some text
  | .sequence .. => none
  | .mapping _ entries => textIn entries

def textIn : List (Node × Node) → Option String
  | [] => none
  | (k, v) :: es => if k.tag == .value then text? v else textIn es

end

def checkKey (key : Value) : Evaluated Value :=
  match key with
  | .list _ => malformed
  | .tuple _ => malformed
  | .set _ => malformed
  | .map _ => malformed
  | _ => .ok key

def scalarOf (tag : Tag) (text : Option String) : Evaluated Value :=
  match text with
  | some t => here (scalarValue tag t)
  | none => malformed

def isScalarTag (t : Tag) : Bool :=
  [Tag.null, .bool, .int, .float, .timestamp, .binary, .text].contains t

def isCollectionTag (t : Tag) : Bool :=
  [Tag.sequence, .mapping, .orderedMap, .pairs, .set].contains t

def misplaced (t : Tag) : Evaluated Value :=
  if isCollectionTag t then below malformed else malformed

mutual

def value : Node → Evaluated Value
  | .scalar tag text => if isCollectionTag tag then misplaced tag else here (scalarValue tag text)
  | .sequence tag items =>
    match tag with
    | .sequence => below (.list <$> values items)
    | .orderedMap => below (.list <$> pairValues items)
    | .pairs => below (.list <$> pairValues items)
    | _ => misplaced tag
  | .mapping tag entries =>
    match tag with
    | .mapping => below (.map <$> entryValues entries)
    | .set => below ((fun es => .set (es.map (·.1))) <$> entryValues entries)
    | _ => if isScalarTag tag then scalarOf tag (textIn entries) else misplaced tag

def values : List Node → Evaluated (List Value)
  | [] => .ok []
  | n :: ns => (fun r => r.1 :: r.2) <$> both (value n) (values ns)

def pairValues : List Node → Evaluated (List Value)
  | [] => .ok []
  | n :: ns =>
    let pair := match n with
      | .mapping _ [(k, v)] => (fun r => Value.tuple [r.1, r.2]) <$> both (value k) (value v)
      | _ => malformed
    (fun r => r.1 :: r.2) <$> both pair (pairValues ns)

/-- The entries of a mapping, each key once: what is merged in counts less than what is written. -/
def entryValues (entries : List (Node × Node)) : Evaluated (List (Value × Value)) :=
  (fun r => Value.ofEntries (r.1 ++ r.2)) <$> splitEntries entries

def splitEntries : List (Node × Node) →
    Evaluated (List (Value × Value) × List (Value × Value))
  | [] => .ok ([], [])
  | (k, v) :: es =>
    if k.tag == .merge then
      (fun r => (r.1 ++ r.2.1, r.2.2)) <$> both (merged v) (splitEntries es)
    else
      let key := if k.tag == .value then scalarOf .text (text? k) else value k >>= checkKey
      (fun r => (r.2.1, r.1 :: r.2.2)) <$> both (both key (value v)) (splitEntries es)

def merged : Node → Evaluated (List (Value × Value))
  | .scalar .. => malformed
  | .mapping _ entries => (fun r => r.1 ++ r.2) <$> splitEntries entries
  | .sequence _ items => mergedAll items

def mergedAll : List Node → Evaluated (List (Value × Value))
  | [] => .ok []
  | n :: ns =>
    let first := match n with
      | .mapping _ entries => (fun r => r.1 ++ r.2) <$> splitEntries entries
      | _ => malformed
    (fun r => r.2 ++ r.1) <$> both first (mergedAll ns)

end

end Node

def read (cs : List Char) : Except Fault Value := do
  match Node.ofTokens? (← Token.ofChars cs) with
  | none => .error .malformed
  | some none => .ok .null
  | some (some n) => n.value.mapError (·.fault)

end Intake.Yaml
