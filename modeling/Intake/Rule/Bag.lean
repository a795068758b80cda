import Intake.Rule.Basic
import Intake.Value.Access

/-! The rules of a field in the order of their declaration, one for each kind. Kinds may be any
keys, since forms may name kinds that do not exist. -/

namespace Intake

structure RuleBag where
  rules : List (Value × Rule)

namespace RuleBag

def empty : RuleBag := ⟨[]⟩

def kinds (b : RuleBag) : List Value := b.rules.map (·.1)

def size (b : RuleBag) : Nat := b.rules.length

def get? (b : RuleBag) (kind : Value) : Option Rule :=
  (b.rules.find? fun e => Value.equal kind e.1).map (·.2)

def contains (b : RuleBag) (kind : Value) : Bool := (b.get? kind).isSome

/-- The kind is set to a rule: in its place when it is declared, and at the end else. -/
def insert (b : RuleBag) (kind : Value) (rule : Rule) : RuleBag :=
  ⟨Value.setEntry kind rule b.rules⟩

def erase (b : RuleBag) (kind : Value) : RuleBag :=
  ⟨b.rules.filter fun e => !Value.equal kind e.1⟩

def ofRules (rules : List (Value × Rule)) : RuleBag :=
  rules.foldl (fun b e => b.insert e.1 e.2) empty

def ofEntries (entries : List (Value × Value)) : RuleBag :=
  ofRules (entries.map fun e => (e.1, Rule.read (RuleKind.ofKey? e.1) e.2))

def toEntries (b : RuleBag) : List (Value × Value) := b.rules.map fun e => (e.1, e.2.toValue)

def toValue (b : RuleBag) : Value := .map b.toEntries

def ofValue : Value → Except Fault RuleBag
  | .map entries => .ok (ofEntries entries)
  | v => .error (.missingAttribute v.longTypeName "items")

def required (b : RuleBag) : Option Rule := b.get? RuleKind.required.key

def optsOut (b : RuleBag) : Bool := b.required.any Rule.isFalse

def equal (a b : RuleBag) : Bool :=
  a.size == b.size && a.rules.all fun e => (b.get? e.1).any (e.2.equal ·)

end RuleBag

end Intake
