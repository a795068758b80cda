import Intake.Number.Numeral
import Intake.Text.Decoding
import Intake.Value.Equality

/-! Reading JSON. Besides the standard form, the words NaN, Infinity and -Infinity are numbers, and
of entries with one key the last counts. A fault tells the place where reading stopped. -/

namespace Intake.Json

inductive Cause where
  | value
  | name
  | colon
  | comma
  | extra
  | unterminated
  | badEscape
  | badUnicodeEscape
  | control
  | byteOrderMark
  deriving Repr, DecidableEq

def Cause.message : Cause → String
  | .value => "Expecting value"
  | .name => "Expecting property name enclosed in double quotes"
  | .colon => "Expecting ':' delimiter"
  | .comma => "Expecting ',' delimiter"
  | .extra => "Extra data"
  | .unterminated => "Unterminated string starting at"
  | .badEscape => "Invalid \\escape"
  | .badUnicodeEscape => "Invalid \\uXXXX escape"
  | .control => "Invalid control character at"
  | .byteOrderMark => "Unexpected UTF-8 BOM (decode using utf-8-sig)"

/-- Why a document cannot be read: its syntax at a position, an integer with too many digits, or
bytes that are no text. -/
inductive Fault where
  | malformed (cause : Cause) (line column position : Nat)
  | longInteger (digits : Nat)
  | decoding (fault : Text.DecodingFault)
  deriving Repr, DecidableEq

def Fault.message : Fault → String
  | .malformed c line column position =>
    c.message ++ s!": line {line} column {column} (char {position})"
  | .longInteger n => Number.tooManyDigits n
  | .decoding f => f.message

inductive Halt where
  | malformed (cause : Cause) (left : Nat)
  | longInteger (digits : Nat)
  deriving Repr, DecidableEq

abbrev Step := Except Halt

def halt {α : Type} (c : Cause) (rest : List Char) : Step α := .error (.malformed c rest.length)

def isSpace (c : Char) : Bool := c == ' ' || c == '\t' || c == '\n' || c == '\r'

def skipSpace (cs : List Char) : List Char := cs.dropWhile isSpace

def hexDigit? (c : Char) : Option Nat :=
  if c.isDigit then some (c.toNat - 48)
  else if 'a' ≤ c && c ≤ 'f' then some (c.toNat - 87)
  else if 'A' ≤ c && c ≤ 'F' then some (c.toNat - 55)
  else none

def hex4? (a b c d : Char) : Option Nat := do
  return (← hexDigit? a) * 4096 + (← hexDigit? b) * 256 + (← hexDigit? c) * 16 + (← hexDigit? d)

def namedEscape? : Char → Option Char
  | '"' => some '"'
  | '\\' => some '\\'
  | '/' => some '/'
  | 'b' => some '\x08'
  | 'f' => some '\x0c'
  | 'n' => some '\n'
  | 'r' => some '\r'
  | 't' => some '\t'
  | _ => none

/-- The code units up to the closing quote; `start` is the text from the opening quote on. -/
def readUnits (start : List Char) : List Char → Step (List Nat × List Char)
  | [] => halt .unterminated start
  | '"' :: rest => .ok ([], rest)
  | '\\' :: [] => halt .unterminated start
  | '\\' :: 'u' :: rest =>
    match rest with
    | a :: b :: c :: d :: e :: rest' => do
      match hex4? a b c d with
      | some n =>
        let (us, r) ← readUnits start (e :: rest')
        return (n :: us, r)
      | none => halt .badUnicodeEscape ('u' :: rest)
    | _ => halt .badUnicodeEscape ('u' :: rest)
  | '\\' :: c :: rest => do
    match namedEscape? c with
    | some e =>
      let (us, r) ← readUnits start rest
      return (e.toNat :: us, r)
    | none => halt .badEscape ('\\' :: c :: rest)
  | c :: rest => do
    if c.toNat < 32 then halt .control (c :: rest)
    else
      let (us, r) ← readUnits start rest
      return (c.toNat :: us, r)

def readText (start rest : List Char) : Step (String × List Char) := do
  let (us, r) ← readUnits start rest
  return (String.ofList (Text.joinSurrogates us), r)

def splitFraction (cs : List Char) : List Char × List Char :=
  match cs with
  | '.' :: rest =>
    let ds := rest.takeWhile Char.isDigit
    if ds.isEmpty then ([], cs) else (ds, rest.dropWhile Char.isDigit)
  | _ => ([], cs)

/-- The exponent in front of a text; none where the letter has no digits after it. -/
def splitExponent (cs : List Char) : Option Int × List Char :=
  match cs with
  | e :: rest =>
    if e == 'e' || e == 'E' then
      let (negative, rest) := Number.readSign rest
      let ds := rest.takeWhile Char.isDigit
      if ds.isEmpty then (none, cs)
      else (some (Number.Binary64.signed negative (Number.ofDigits ds)),
        rest.dropWhile Char.isDigit)
    else (none, cs)
  | [] => (none, cs)

def readNumber (cs : List Char) : Step (Value × List Char) :=
  let negative := cs.head? == some '-'
  let body := if negative then cs.drop 1 else cs
  let whole := match body with
    | '0' :: _ => ['0']
    | _ => body.takeWhile Char.isDigit
  if whole.isEmpty then halt .value cs
  else
    let (fraction, rest) := splitFraction (body.drop whole.length)
    let (exponent, rest) := splitExponent rest
    if fraction.isEmpty && exponent.isNone then
      if Number.digitLimit < whole.length then .error (.longInteger whole.length)
      else .ok (.int (Number.Binary64.signed negative (Number.ofDigits whole)), rest)
    else
      .ok (.float (Number.Numeral.mk negative whole fraction (exponent.getD 0)).value, rest)

def words : List (List Char × Value) :=
  [("null".toList, .null), ("true".toList, .bool true), ("false".toList, .bool false),
    ("NaN".toList, .float .nan), ("Infinity".toList, .float (.infinite false)),
    ("-Infinity".toList, .float (.infinite true))]

def readWord? (cs : List Char) : Option (Value × List Char) :=
  (words.find? fun w => w.1.isPrefixOf cs).map fun w => (w.2, cs.drop w.1.length)

mutual

def readValue : Nat → List Char → Step (Value × List Char)
  | 0, cs => halt .value cs
  | fuel + 1, cs =>
    match cs with
    | '"' :: rest => do
      let (t, r) ← readText cs rest
      return (.text t, r)
    | '\x7b' :: rest => do
      let rest := skipSpace rest
      if rest.head? == some '\x7d' then return (.map [], rest.drop 1)
      let (es, r) ← readEntries [] fuel rest
      return (.map es, r)
    | '[' :: rest => do
      let rest := skipSpace rest
      if rest.head? == some ']' then return (.list [], rest.drop 1)
      let (xs, r) ← readElements fuel rest
      return (.list xs, r)
    | _ =>
      match readWord? cs with
      | some r => .ok r
      | none => readNumber cs

def readElements : Nat → List Char → Step (List Value × List Char)
  | 0, cs => halt .value cs
  | fuel + 1, cs => do
    let (x, rest) ← readValue fuel cs
    let rest := skipSpace rest
    match rest with
    | ']' :: rest => return ([x], rest)
    | ',' :: rest =>
      let (xs, r) ← readElements fuel (skipSpace rest)
      return (x :: xs, r)
    | _ => halt .comma rest

def readEntries (before : List (Value × Value)) :
    Nat → List Char → Step (List (Value × Value) × List Char)
  | 0, cs => halt .name cs
  | fuel + 1, cs => do
    match cs with
    | '"' :: rest =>
      let (key, rest) ← readText cs rest
      let rest := skipSpace rest
      match rest with
      | ':' :: rest =>
        let (x, rest) ← readValue fuel (skipSpace rest)
        let entries := Value.setEntry (.text key) x before
        let rest := skipSpace rest
        match rest with
        | '\x7d' :: rest => return (entries, rest)
        | ',' :: rest => readEntries entries fuel (skipSpace rest)
        | _ => halt .comma rest
      | _ => halt .colon rest
    | _ => halt .name cs

end

def place (cs : List Char) (left : Nat) : Nat × Nat × Nat :=
  let position := cs.length - left
  let before := cs.take position
  (before.count '\n' + 1, (before.reverse.takeWhile (· != '\n')).length + 1, position)

def faultAt (cs : List Char) (c : Cause) (left : Nat) : Fault :=
  let (line, column, position) := place cs left
  .malformed c line column position

def readBody (cs : List Char) : Except Fault Value :=
  match readValue (2 * cs.length + 2) (skipSpace cs) with
  | .ok (v, rest) =>
    let rest := skipSpace rest
    if rest.isEmpty then .ok v else .error (faultAt cs .extra rest.length)
  | .error (.malformed c left) => .error (faultAt cs c left)
  | .error (.longInteger n) => .error (.longInteger n)

def readChars (cs : List Char) : Except Fault Value :=
  if cs.head? == some '\uFEFF' then .error (faultAt cs .byteOrderMark cs.length) else readBody cs

def readBytes (bs : List UInt8) : Except Fault Value :=
  match Text.decodeDocument bs with
  | .ok cs => readBody cs
  | .error f => .error (.decoding f)

end Intake.Json
