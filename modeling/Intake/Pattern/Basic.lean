import Intake.Text.Word
import Intake.Text.Case

/-! Search patterns: sets of characters, anchors, sequences, alternatives, groups, repetition, back
references, assertions and conditions. Whether case counts and which alphabet the classes follow is
settled for each part when the pattern is read. -/

namespace Intake

inductive CharProperty where
  | digit
  | blank
  | word
  deriving Repr, DecidableEq

inductive ClassItem where
  | range (low high : Nat)
  | property (p : CharProperty) (holds : Bool)
  deriving Repr, DecidableEq

structure CharClass where
  negated : Bool
  items : List ClassItem
  ignoreCase : Bool
  ascii : Bool
  deriving Repr, DecidableEq

inductive Anchor where
  | lineStart
  | lineEnd
  | textStart
  | lastLineEnd
  | textEnd
  | wordEdge (ascii : Bool)
  | noWordEdge (ascii : Bool)
  deriving Repr, DecidableEq

inductive Greed where
  | greedy
  | lazy
  | possessive
  deriving Repr, DecidableEq

/-- The least and the greatest number of characters that a pattern takes up. -/
structure Width where
  least : Nat
  greatest : Nat
  deriving Repr, DecidableEq

inductive Pattern where
  | empty
  | one (c : CharClass)
  | any (newlines : Bool)
  | anchor (a : Anchor)
  | seq (a b : Pattern)
  | alt (a b : Pattern)
  | scope (p : Pattern)
  | group (index : Nat) (p : Pattern)
  | reference (index : Nat) (ignoreCase ascii : Bool) (width : Width)
  | repetition (least : Nat) (greatest : Option Nat) (greed : Greed) (p : Pattern)
  | look (ahead negated : Bool) (p : Pattern)
  | atomic (p : Pattern)
  | conditional (index : Nat) (yes no : Pattern)
  deriving Repr, DecidableEq

def Width.limit : Nat := 18446744073709551616

def Width.cap (w : Width) : Width := ⟨min w.least limit, min w.greatest limit⟩

def Pattern.width : Pattern → Width
  | .empty => ⟨0, 0⟩
  | .one _ => ⟨1, 1⟩
  | .any _ => ⟨1, 1⟩
  | .anchor _ => ⟨0, 0⟩
  | .seq a b => Width.cap ⟨a.width.least + b.width.least, a.width.greatest + b.width.greatest⟩
  | .alt a b =>
    ⟨min a.width.least b.width.least, max a.width.greatest b.width.greatest⟩
  | .scope p => p.width
  | .group _ p => p.width
  | .reference _ _ _ w => w
  | .repetition least greatest _ p =>
    Width.cap ⟨p.width.least * least, match greatest with
      | some n => p.width.greatest * n
      | none => if p.width.greatest == 0 then 0 else Width.limit⟩
  | .look .. => ⟨0, 0⟩
  | .atomic p => p.width
  | .conditional _ a b =>
    ⟨min a.width.least b.width.least, max a.width.greatest b.width.greatest⟩

namespace CharProperty

def holds (ascii : Bool) (c : Char) : CharProperty → Bool
  | .digit => if ascii then c.isDigit else Text.isDecimal c
  | .blank => if ascii then c == ' ' || (9 ≤ c.toNat && c.toNat ≤ 13) else Text.isBlank c
  | .word => if ascii then c.isAlphanum || c == '_' else Text.isWord c

end CharProperty

namespace CharClass

def sourcesOf (n : Nat) : List Nat :=
  n :: (Text.lowerRuns.filter fun r =>
    r.image ≤ n && n - r.image ≤ r.last - r.first && (n - r.image) % r.step == 0).map fun r =>
      r.first + (n - r.image)

def variants (ascii : Bool) (c : Char) : List Nat :=
  if ascii then [c.toLower.toNat, c.toUpper.toNat] else (Text.caseClass c).flatMap sourcesOf

def holdsItem (k : CharClass) (c : Char) : ClassItem → Bool
  | .range low high =>
    if k.ignoreCase then (variants k.ascii c).any fun n => low ≤ n && n ≤ high
    else low ≤ c.toNat && c.toNat ≤ high
  | .property p holds =>
    p.holds k.ascii (if k.ignoreCase then
      (if k.ascii then c.toLower else Text.lowerChar c) else c) == holds

def holds (k : CharClass) (c : Char) : Bool := k.items.any (k.holdsItem c) != k.negated

end CharClass

end Intake
