import Intake.Check.Number
import Intake.Pattern.Reader
import Intake.Pattern.Search
import Intake.Rule.Display

/-! The check of email addresses. An address has to follow a grammar of ASCII characters, and none
of the restricting patterns may occur in its normal form, in which different spellings of one
mailbox agree. -/

namespace Intake

namespace Email

def isLocalChar (c : Char) : Bool :=
  c.isAlphanum || c == '.' || c == '_' || c == '%' || c == '+' || c == '-'

def isLabelChar (c : Char) : Bool := c.isAlphanum || c == '-'

def splitAt (separator : Char) : List Char → List (List Char)
  | [] => [[]]
  | c :: cs =>
    if c == separator then [] :: splitAt separator cs
    else match splitAt separator cs with
      | p :: ps => (c :: p) :: ps
      | [] => [[c]]

def isLabel (cs : List Char) : Bool := !cs.isEmpty && cs.all isLabelChar

def isTopLabel (cs : List Char) : Bool := 2 ≤ cs.length && cs.all Char.isAlpha

def isDomain (cs : List Char) : Bool :=
  let labels := splitAt '.' cs
  2 ≤ labels.length && labels.all isLabel && labels.getLast?.any isTopLabel

def isAddress (cs : List Char) : Bool :=
  match splitAt '@' cs with
  | [name, domain] => !name.isEmpty && name.all isLocalChar && isDomain domain
  | _ => false

def canonicalDomain? (domain : List Char) : Option (List Char) :=
  if domain == "gmail.com".toList || domain == "googlemail.com".toList then
    some "gmail.com".toList
  else none

/-- The normal form of an address in lower case: what follows a plus sign before the first at sign
is dropped, and points there too where the provider ignores them. -/
def normalizeChars (cs : List Char) : List Char :=
  let cs := Text.lowerChars cs
  let name := (cs.takeWhile (· != '@')).takeWhile (· != '+')
  let domain := (cs.dropWhile (· != '@')).drop 1
  match canonicalDomain? domain with
  | some canonical => name.filter (· != '.') ++ '@' :: canonical
  | none => name ++ '@' :: domain

def normalize? (s : String) : Option String :=
  if s == "" then none else some (String.ofList (normalizeChars s.toList))

def normalizeValue (v : Value) : Except Fault (Option String) :=
  if !v.truthy then .ok none
  else match v with
    | .text s => .ok (normalize? s)
    | .bytes _ => .error (.type (.notBytes "str"))
    | v => .error (.missingAttribute v.longTypeName "lower")

end Email

/-- A pattern read from a value: texts and bytes may be patterns, but bytes match no text. -/
structure ValuePattern where
  pattern : Pattern
  isText : Bool

def Value.toPattern (names : Pattern.Names) (v : Value) : Except Fault ValuePattern := do
  let v ← v.asKey
  let read (isText : Bool) (cs : List Char) : Except Fault ValuePattern :=
    match Pattern.read names isText cs with
    | .ok p => .ok ⟨p, isText⟩
    | .error r => .error r.toFault
  match v with
  | .text s => read true s.toList
  | .bytes bs => read false (bs.map fun b => Char.ofNat b.toNat)
  | _ => throw (.type .notPattern)

namespace Check

def isRestricted (names : Pattern.Names) (normal : Option String) : List Value → Except Fault Bool
  | [] => .ok false
  | r :: rs => do
    let p ← r.toPattern names
    match normal with
    | none => isRestricted names normal rs
    | some s =>
      if !p.isText then throw (.type .bytesPattern)
      let here := p.pattern.occursIn s.toList
      return (← isRestricted names normal rs) || here

def emailRestrictions : Rule → Except Fault Value
  | .options ⟨.email r, _⟩ => .ok r
  | .options o => .error (.missingAttribute o.options.typeName "restrictions")
  | .plain .null => .ok .null
  | .plain v => .error (.missingAttribute v.longTypeName "restrictions")

def email (names : Pattern.Names) (value restrictions : Value) : Except Fault (List String) := do
  let follows := value.text?.any fun s => Email.isAddress s.toList
  let normal := value.text?.bind Email.normalize?
  let patterns ← if restrictions.truthy then restrictions.items else pure []
  let restricted ← isRestricted names normal patterns
  let syntactic ← messageIf (!follows) do
    return s!"Invalid email address: \"{← value.written}\""
  let general ← messageIf (!follows || restricted) do
    return s!"Email address does not meet validation requirements: \"{← value.written}\""
  return syntactic ++ general

end Check

end Intake
