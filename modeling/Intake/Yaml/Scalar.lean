import Intake.Fault
import Intake.Number.Loose
import Intake.Yaml.Character

/-! The text of scalars: quoted, plain, and in blocks of lines. Each reader gives the text and the
characters that follow the scalar. -/

namespace Intake.Yaml

/-! ### Quoted scalars -/

def letterEscape? : Char → Option Char
  | '0' => some '\x00'
  | 'a' => some '\x07'
  | 'b' => some '\x08'
  | 't' => some '\t'
  | '\t' => some '\t'
  | 'n' => some '\n'
  | 'v' => some '\x0b'
  | 'f' => some '\x0c'
  | 'r' => some '\x0d'
  | 'e' => some '\x1b'
  | ' ' => some ' '
  | '"' => some '"'
  | '\\' => some '\\'
  | '/' => some '/'
  | 'N' => some '\u0085'
  | '_' => some '\u00a0'
  | 'L' => some '\u2028'
  | 'P' => some '\u2029'
  | _ => none

def codeEscape? : Char → Option Nat
  | 'x' => some 2
  | 'u' => some 4
  | 'U' => some 8
  | _ => none

inductive QuotedState where
  | gap (g : Gap)
  | escape
  | code (left value : Nat)
  | quote

def checkCode (n : Nat) : Except Fault Nat :=
  if Text.codeLimit ≤ n then .error (.scalar .codeTooLarge)
  else if 0x110000 ≤ n then .error (.scalar (.value .codePoint))
  else .ok n

def quotedUnits (double : Bool) : QuotedState → List Char → Except Fault (List Nat × List Char)
  | .quote, [] => .ok ([], [])
  | _, [] => .error .malformed
  | .gap g, c :: cs =>
    if isGap c then
      if isBreak c && startsSeparator cs then .error .malformed
      else quotedUnits double (.gap (g.push c)) cs
    else do
      let before := g.text.map Char.toNat
      if double && c == '"' then return (before, cs)
      let (now, state) := if !double && c == '\'' then ([], QuotedState.quote)
        else if double && c == '\\' then ([], .escape)
        else ([c.toNat], .gap .none)
      let (units, rest) ← quotedUnits double state cs
      return (before ++ now ++ units, rest)
  | .quote, c :: cs => do
    if c != '\'' then return ([], c :: cs)
    let (units, rest) ← quotedUnits double (.gap .none) cs
    return (c.toNat :: units, rest)
  | .escape, c :: cs =>
    match letterEscape? c, codeEscape? c with
    | some e, _ => do
      let (units, rest) ← quotedUnits double (.gap .none) cs
      return (e.toNat :: units, rest)
    | none, some digits => quotedUnits double (.code digits 0) cs
    | none, none =>
      if isBreak c && !startsSeparator cs then quotedUnits double (.gap (.lines none [])) cs
      else .error .malformed
  | .code left value, c :: cs =>
    match Number.digitIn? 16 c with
    | none => .error .malformed
    | some d => do
      let value := value * 16 + d
      if 1 < left then return ← quotedUnits double (.code (left - 1) value) cs
      let code ← checkCode value
      let (units, rest) ← quotedUnits double (.gap .none) cs
      return (code :: units, rest)

def readQuoted (double : Bool) (cs : List Char) : Except Fault (String × List Char) := do
  let (units, rest) ← quotedUnits double (.gap .none) cs
  return (String.ofList (Text.joinSurrogates units), rest)

/-! ### Plain scalars -/

def isPlainChar (inFlow : Bool) (c : Char) (cs : List Char) : Bool :=
  let brackets := [',', '[', ']', '\x7b', '\x7d']
  !isGap c && !(c == ':' && (endsWord cs || (inFlow && cs.head?.any brackets.contains))) &&
    !(inFlow && (c == '?' || brackets.contains c))

/-- The plain scalar that goes on in front of a text. It stops at a comment, at a separator of
documents and, outside of flow collections, at a line that starts left of `indent`. The characters
after its last word are in `back`. -/
def plainChars (inFlow : Bool) (indent : Nat) (back : List Char) (g : Gap) (column : Nat) :
    List Char → List Char × List Char
  | [] => ([], back)
  | c :: cs =>
    if c == ' ' then plainChars inFlow indent back (g.push c) (column + 1) cs
    else if isBreak c then
      if startsSeparator cs then ([], back) else plainChars inFlow indent back (g.push c) 0 cs
    else if !isPlainChar inFlow c cs || (c == '#' && !g.isEmpty) ||
        (g.crossesLine && !inFlow && column < indent) then ([], back)
    else
      let (text, rest) := plainChars inFlow indent cs .none column cs
      (g.text ++ c :: text, rest)

def readPlain (inFlow : Bool) (indent : Nat) (cs : List Char) : String × List Char :=
  let (text, rest) := plainChars inFlow indent cs .none 0 cs
  (String.ofList text, rest)

/-! ### Block scalars -/

inductive Chomping where
  | clip
  | strip
  | keep
  deriving Repr, DecidableEq

def chomping? : Char → Option Chomping
  | '+' => some .keep
  | '-' => some .strip
  | _ => none

def indentation? (c : Char) : Option Nat :=
  if c.isDigit && c != '0' then some (Number.digitValue c) else none

def blockHeader? (cs : List Char) : Option (Chomping × Option Nat × List Char) := do
  let (chomping, cs) := match cs with
    | c :: rest => ((chomping? c), if (chomping? c).isSome then rest else cs)
    | [] => (none, cs)
  let (indent, cs) := match cs with
    | c :: rest => ((indentation? c), if (indentation? c).isSome then rest else cs)
    | [] => (none, cs)
  let (chomping, cs) := match chomping, indent, cs with
    | none, some _, c :: rest => ((chomping? c), if (chomping? c).isSome then rest else cs)
    | _, _, _ => (chomping, cs)
  if !endsPart cs then none
  return (chomping.getD .clip, indent, (← lineRest? cs).drop 1)

def leadingColumn (most column : Nat) : List Char → Nat
  | [] => most
  | c :: cs =>
    if c == ' ' then leadingColumn (max most (column + 1)) (column + 1) cs
    else if isBreak c then leadingColumn most 0 cs
    else most

/-- Where the reader of a block stands: in a line, or in front of one at a column. A line is solid
when it starts with no blank. `last` is the end of the last line with text, and `breaks` are the
empty lines since. -/
inductive BlockState where
  | inside (solid : Bool)
  | before (last : Option Char) (solid : Bool) (breaks : List Char) (column : Nat)

structure Block where
  text : List Char
  last : List Char
  breaks : List Char
  rest : List Char

/-- What stands between two lines with text. Where lines are folded, the line end between two solid
lines becomes a space, or nothing when empty lines follow. -/
def joinLines (folded : Bool) (last : Option Char) (solid : Bool) (breaks : List Char) :
    List Char :=
  match last with
  | none => breaks
  | some e =>
    if folded && e == '\n' && solid then (if breaks.isEmpty then [' '] else breaks)
    else e :: breaks

def blockLines (folded : Bool) (indent : Nat) : BlockState → List Char → Block
  | .inside _, [] => ⟨[], [], [], []⟩
  | .before last _ breaks _, [] => ⟨[], last.toList, breaks, []⟩
  | .inside solid, c :: cs =>
    if isBreak c then blockLines folded indent (.before (some (lineEnd c)) solid [] 0) cs
    else
      let b := blockLines folded indent (.inside solid) cs
      { b with text := c :: b.text }
  | .before last solid breaks column, c :: cs =>
    if isBreak c then
      blockLines folded indent (.before last solid (breaks ++ [lineEnd c]) 0) cs
    else if c == ' ' && column < indent then
      blockLines folded indent (.before last solid breaks (column + 1)) cs
    else if column == indent then
      let starts := c != ' ' && c != '\t'
      let b := blockLines folded indent (.inside starts) cs
      { b with text := joinLines folded last (solid && starts) breaks ++ c :: b.text }
    else ⟨[], last.toList, breaks, c :: cs⟩

def readBlock? (folded : Bool) (least : Nat) (cs : List Char) : Option (String × List Char) := do
  let (chomping, increment, cs) ← blockHeader? cs
  let indent := match increment with
    | some n => least + n - 1
    | none => max least (leadingColumn 0 0 cs)
  let b := blockLines folded indent (.before none true [] 0) cs
  let tail := match chomping with
    | .strip => []
    | .clip => b.last
    | .keep => b.last ++ b.breaks
  return (String.ofList (b.text ++ tail), b.rest)

end Intake.Yaml
