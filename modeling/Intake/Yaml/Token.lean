import Intake.Yaml.Scalar

/-! The tokens of a document. Besides the signs that are written there are tokens where blocks open
and close, which the columns of the lines tell, and where a key starts, which only the colon after
it tells. -/

namespace Intake.Yaml

inductive Token where
  | version (major : Nat)
  | handle (name stem : String)
  | reserved
  | documentStart
  | documentEnd
  | blockSequence
  | blockMapping
  | blockEnd
  | openSequence
  | closeSequence
  | openMapping
  | closeMapping
  | entry
  | comma
  | key
  | value
  | alias (name : String)
  | anchor (name : String)
  | tag (handle : Option String) (suffix : String)
  | scalar (text : String) (plain : Bool)
  deriving Repr, DecidableEq

/-- A token that may turn out to start a key: how many tokens come before it, and where it stands.
A key is required where a block mapping would end else. -/
structure KeyPlace where
  number : Nat
  required : Bool
  index : Nat
  line : Nat
  column : Nat
  deriving Repr, DecidableEq

/-- The characters that are left and where they start, the columns of the open blocks from the
innermost out, the possible key of this and of each outer flow collection, whether a key may stand
here, and the tokens so far. -/
structure Scan where
  rest : List Char
  index : Nat
  line : Nat
  column : Nat
  blocks : List Nat
  key : Option KeyPlace
  outerKeys : List (Option KeyPlace)
  allowsKey : Bool
  tokens : Array Token

namespace Scan

def start (cs : List Char) : Scan :=
  ⟨if cs.head? == some '\uFEFF' then cs.drop 1 else cs, 0, 0, 0, [], none, [], true, #[]⟩

def inFlow (s : Scan) : Bool := !s.outerKeys.isEmpty

def past (s : Scan) : Nat → Scan
  | 0 => s
  | n + 1 =>
    match s.rest with
    | [] => s
    | c :: cs =>
      let newLine := isBreak c
      past { s with
        rest := cs
        index := s.index + 1
        line := if newLine then s.line + 1 else s.line
        column := if newLine then 0 else if c == '\uFEFF' then s.column else s.column + 1 } n

def upTo (s : Scan) (rest : List Char) : Scan := s.past (s.rest.length - rest.length)

/-- A key stands on one line and is not longer than this. -/
def keyLimit : Nat := 1024

def isStale (s : Scan) (k : KeyPlace) : Bool := k.line != s.line || k.index + keyLimit < s.index

def scalarColumn (s : Scan) : Nat := (s.blocks.head?.map (· + 1)).getD 0

end Scan

abbrev Scanning := StateT Scan (Except Fault)

namespace Scanning

def malformed {α : Type} : Scanning α := throw .malformed

def orMalformed {α : Type} : Option α → Scanning α
  | some x => pure x
  | none => malformed

def emit (t : Token) : Scanning Unit := modify fun s => { s with tokens := s.tokens.push t }

def insert (number : Nat) (t : Token) : Scanning Unit :=
  modify fun s => { s with tokens := s.tokens.insertIdxIfInBounds number t }

def moveTo (rest : List Char) : Scanning Unit := modify (·.upTo rest)

def allowKey (b : Bool) : Scanning Unit := modify fun s => { s with allowsKey := b }

def sign (t : Token) (count : Nat) : Scanning Unit := do
  modify (·.past count)
  emit t

def dropKey : Scanning Unit := do
  if (← get).key.any (·.required) then malformed
  modify fun s => { s with key := none }

def dropStaleKeys : Scanning Unit := do
  let s ← get
  let isRequired (k : Option KeyPlace) : Bool := k.any fun k => k.required && s.isStale k
  if isRequired s.key || s.outerKeys.any isRequired then malformed
  let fresh (k : Option KeyPlace) : Option KeyPlace := k.filter (!s.isStale ·)
  set { s with key := fresh s.key, outerKeys := s.outerKeys.map fresh }

def saveKey : Scanning Unit := do
  if (← get).allowsKey then
    dropKey
    modify fun s => { s with
      key := some ⟨s.tokens.size, !s.inFlow && s.blocks.head? == some s.column, s.index, s.line,
        s.column⟩ }

def closeBlocks (column : Nat) : Scanning Unit := modify fun s =>
  if s.inFlow then s
  else
    let closed := s.blocks.takeWhile (column ≤ ·)
    { s with
      blocks := s.blocks.drop closed.length
      tokens := s.tokens ++ Array.replicate closed.length .blockEnd }

def opensBlock (column : Nat) : Scanning Bool := do
  let s ← get
  if s.blocks.head?.all (· < column) then
    set { s with blocks := column :: s.blocks }
    return true
  else return false

def skipGaps (inComment : Bool) : List Char → List Char × Bool
  | [] => ([], false)
  | c :: cs =>
    if isBreak c then ((skipGaps false cs).1, true)
    else if inComment || c == ' ' then skipGaps inComment cs
    else if c == '#' then skipGaps true cs
    else (c :: cs, false)

def skip : Scanning Unit := do
  let s ← get
  let (rest, broken) := skipGaps false s.rest
  moveTo rest
  if broken && !s.inFlow then allowKey true

/-! ### Directives, anchors and tags -/

def name? (cs : List Char) : Option (String × List Char) :=
  let name := cs.takeWhile isNameChar
  if name.isEmpty then none else some (String.ofList name, cs.drop name.length)

def handle? (cs : List Char) : Option (String × List Char) :=
  match cs with
  | '!' :: rest =>
    if rest.head? == some ' ' then some ("!", rest)
    else
      let name := rest.takeWhile isNameChar
      match rest.drop name.length with
      | '!' :: rest => some (String.ofList ('!' :: name ++ ['!']), rest)
      | _ => none
  | _ => none

def isUriChar (c : Char) : Bool :=
  isNameChar c || ";/?:@&=+$,.!~*'()[]%".toList.contains c

def uriBytes? : List Char → Option (List UInt8)
  | [] => some []
  | '%' :: a :: b :: cs => do
    return ((← Number.digitIn? 16 a) * 16 + (← Number.digitIn? 16 b)).toUInt8 :: (← uriBytes? cs)
  | c :: cs => if c == '%' then none else (uriBytes? cs).map (c.toNat.toUInt8 :: ·)

def uri? (cs : List Char) : Option (String × List Char) := do
  let part := cs.takeWhile isUriChar
  if part.isEmpty then none
  let text ← (Text.decodeUtf8 (← uriBytes? part)).toOption
  return (String.ofList text, cs.drop part.length)

def version? (cs : List Char) : Option (Token × List Char) :=
  let major := cs.takeWhile Char.isDigit
  match cs.drop major.length with
  | '.' :: rest =>
    let minor := rest.takeWhile Char.isDigit
    if major.isEmpty || minor.isEmpty then none
    else some (.version (Number.ofDigits major), rest.drop minor.length)
  | _ => none

def declaredHandle? (cs : List Char) : Option (Token × List Char) := do
  let (handle, rest) ← handle? cs
  if rest.head? != some ' ' then none
  let (stem, rest) ← uri? (skipSpaces rest)
  return (.handle handle stem, rest)

def directive? (cs : List Char) : Option (Token × List Char) := do
  let (name, rest) ← name? cs
  if !endsPart rest then none
  let (token, rest) ← if name == "YAML" then version? (skipSpaces rest)
    else if name == "TAG" then declaredHandle? (skipSpaces rest)
    else some (.reserved, skipLine rest)
  if !endsPart rest then none
  return (token, ← lineRest? rest)

def anchor? (cs : List Char) : Option (String × List Char) := do
  let (name, rest) ← name? cs
  if endsWord rest || rest.head?.any "?:,]\x7d%@`".toList.contains then return (name, rest)
  else none

def tag? (cs : List Char) : Option (Token × List Char) := do
  let after := cs.drop 1
  let (token, rest) ← if after.head? == some '<' then do
      let (uri, rest) ← uri? (after.drop 1)
      if rest.head? == some '>' then some (Token.tag none uri, rest.drop 1) else none
    else if endsWord after then some (Token.tag none "!", after)
    else do
      let word := after.takeWhile fun c => c != ' ' && !isBreak c
      let (handle, rest) ← if word.contains '!' then handle? cs else some ("!", after)
      let (suffix, rest) ← uri? rest
      return (Token.tag (some handle) suffix, rest)
  if endsPart rest then return (token, rest) else none

/-! ### Tokens -/

def separate : Scanning Unit := do
  closeBlocks 0
  dropKey
  allowKey false

def openFlow (t : Token) : Scanning Unit := do
  saveKey
  modify fun s => { s with key := none, outerKeys := s.key :: s.outerKeys, allowsKey := true }
  sign t 1

def closeFlow (t : Token) : Scanning Unit := do
  dropKey
  match (← get).outerKeys with
  | [] => malformed
  | k :: ks =>
    modify fun s => { s with key := k, outerKeys := ks, allowsKey := false }
    sign t 1

def blockSign (opens t : Token) (keyAfter : Bool) : Scanning Unit := do
  let s ← get
  if !s.inFlow then
    if !s.allowsKey then malformed
    if ← opensBlock s.column then emit opens
  allowKey keyAfter
  dropKey
  sign t 1

/-- A colon makes the token at the place remembered a key. Without one it is the value of a key with
a mark, or of none. -/
def valueSign : Scanning Unit := do
  let s ← get
  match s.key with
  | some k =>
    modify fun s => { s with key := none, allowsKey := false }
    insert k.number .key
    if !s.inFlow then
      if ← opensBlock k.column then insert k.number .blockMapping
  | none =>
    if !s.inFlow then
      if !s.allowsKey then malformed
      if ← opensBlock s.column then emit .blockMapping
    allowKey (!s.inFlow)
  sign .value 1

def word (read : Scan → Except Fault (Token × List Char)) : Scanning Unit := do
  saveKey
  allowKey false
  let (token, rest) ← read (← get)
  moveTo rest
  emit token

def named (make : String → Token) (cs : List Char) : Except Fault (Token × List Char) :=
  match anchor? cs with
  | some (name, rest) => .ok (make name, rest)
  | none => .error .malformed

def quoted (double : Bool) (cs : List Char) : Except Fault (Token × List Char) := do
  let (text, rest) ← readQuoted double cs
  return (.scalar text false, rest)

def plain (s : Scan) : Except Fault (Token × List Char) :=
  let (text, rest) := readPlain s.inFlow s.scalarColumn s.rest
  .ok (.scalar text true, rest)

def block (folded : Bool) (cs : List Char) : Scanning Unit := do
  allowKey true
  dropKey
  let (text, rest) ← orMalformed (readBlock? folded (max 1 (← get).scalarColumn) cs)
  moveTo rest
  emit (.scalar text false)

def indicators : List Char := "-?:,[]\x7b\x7d#&*!|>'\"%@`".toList

def startsPlain (inFlow : Bool) (c : Char) (cs : List Char) : Bool :=
  (!isGap c && !indicators.contains c) ||
    (!endsWord cs && (c == '-' || (!inFlow && (c == '?' || c == ':'))))

def token (c : Char) (cs : List Char) : Scanning Unit := do
  let s ← get
  let atMargin := s.column == 0
  if atMargin && c == '%' then
    separate
    let (t, rest) ← orMalformed (directive? cs)
    moveTo rest
    emit t
  else if atMargin && startsSeparator (c :: cs) then
    separate
    sign (if c == '-' then .documentStart else .documentEnd) 3
  else if c == '[' then openFlow .openSequence
  else if c == '\x7b' then openFlow .openMapping
  else if c == ']' then closeFlow .closeSequence
  else if c == '\x7d' then closeFlow .closeMapping
  else if c == ',' then
    allowKey true
    dropKey
    sign .comma 1
  else if c == '-' && endsWord cs then blockSign .blockSequence .entry true
  else if c == '?' && (s.inFlow || endsWord cs) then blockSign .blockMapping .key (!s.inFlow)
  else if c == ':' && (s.inFlow || endsWord cs) then valueSign
  else if c == '*' then word fun _ => named .alias cs
  else if c == '&' then word fun _ => named .anchor cs
  else if c == '!' then word fun s => match tag? s.rest with
    | some r => .ok r
    | none => .error .malformed
  else if c == '|' && !s.inFlow then block false cs
  else if c == '>' && !s.inFlow then block true cs
  else if c == '\'' then word fun _ => quoted false cs
  else if c == '"' then word fun _ => quoted true cs
  else if startsPlain s.inFlow c cs then word plain
  else malformed

def tokens : Nat → Scanning Unit
  | 0 => malformed
  | fuel + 1 => do
    skip
    dropStaleKeys
    closeBlocks ((← get).column + 1)
    match (← get).rest with
    | [] =>
      closeBlocks 0
      dropKey
    | c :: cs =>
      token c cs
      tokens fuel

end Scanning

def Token.ofChars (cs : List Char) : Except Fault (List Token) := do
  if !cs.all isPrintable then throw .malformed
  let (_, s) ← (Scanning.tokens (cs.length + 1)).run (Scan.start cs)
  return s.tokens.toList

end Intake.Yaml
