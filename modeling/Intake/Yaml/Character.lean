/-! The characters that matter for the form of a document, and the gaps between words of scalars.
Carriage returns are gone before a document is read. -/

namespace Intake.Yaml

def isPrintable (c : Char) : Bool :=
  let n := c.toNat
  n == 9 || n == 10 || n == 13 || (0x20 ≤ n && n ≤ 0x7E) || n == 0x85 ||
    (0xA0 ≤ n && n ≤ 0xD7FF) || (0xE000 ≤ n && n ≤ 0xFFFD) || 0x10000 ≤ n

def isBreak (c : Char) : Bool := c == '\n' || c == '\u0085' || c == '\u2028' || c == '\u2029'

def lineEnd (c : Char) : Char := if c == '\u0085' then '\n' else c

def isGap (c : Char) : Bool := c == ' ' || c == '\t' || isBreak c

def endsWord (cs : List Char) : Bool := cs.head?.all isGap

def endsLine (cs : List Char) : Bool := cs.head?.all isBreak

def endsPart (cs : List Char) : Bool := cs.head?.all fun c => c == ' ' || isBreak c

def startsSeparator (cs : List Char) : Bool :=
  (['-', '-', '-'].isPrefixOf cs || ['.', '.', '.'].isPrefixOf cs) && endsWord (cs.drop 3)

def isNameChar (c : Char) : Bool := c.isAlphanum || c == '-' || c == '_'

def skipSpaces (cs : List Char) : List Char := cs.dropWhile (· == ' ')

def skipLine (cs : List Char) : List Char := cs.dropWhile (!isBreak ·)

def lineRest? (cs : List Char) : Option (List Char) :=
  let rest := skipSpaces cs
  let rest := if rest.head? == some '#' then skipLine rest else rest
  if endsLine rest then some rest else none

/-- What stands between two words of a scalar: blanks of one line, or line ends. The first line end
is told apart, and it is none where it was escaped. -/
inductive Gap where
  | blanks (cs : List Char)
  | lines (first : Option Char) (more : List Char)
  deriving Repr, DecidableEq

namespace Gap

def none : Gap := .blanks []

def push (c : Char) : Gap → Gap
  | .blanks cs => if isBreak c then .lines (some (lineEnd c)) [] else .blanks (cs ++ [c])
  | .lines first more => if isBreak c then .lines first (more ++ [lineEnd c]) else .lines first more

def text : Gap → List Char
  | .blanks cs => cs
  | .lines (some '\n') [] => [' ']
  | .lines (some '\n') more => more
  | .lines (some c) more => c :: more
  | .lines Option.none more => more

def isEmpty : Gap → Bool
  | .blanks cs => cs.isEmpty
  | .lines .. => false

def crossesLine : Gap → Bool
  | .blanks _ => false
  | .lines .. => true

end Gap

end Intake.Yaml
