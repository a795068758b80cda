import Intake.Number.Loose
import Intake.Pattern.Basic
import Intake.Pattern.Fault
import Intake.Text.Decoding

/-! Reading the text of a pattern. The reader looks one token ahead, a token being a character or a
backslash with the character after it, and stops at the first fault. -/

namespace Intake.Pattern

structure Flags where
  ignoreCase : Bool
  lines : Bool
  anyNewline : Bool
  verbose : Bool
  ascii : Bool
  unicode : Bool
  locale : Bool
  plain : Bool
  deriving Repr, DecidableEq

namespace Flags

def none : Flags := ⟨false, false, false, false, false, false, false, false⟩

def ofLetter? : Char → Option Flags
  | 'i' => some { none with ignoreCase := true }
  | 'm' => some { none with lines := true }
  | 's' => some { none with anyNewline := true }
  | 'x' => some { none with verbose := true }
  | 'a' => some { none with ascii := true }
  | 'u' => some { none with unicode := true }
  | 'L' => some { none with locale := true }
  | 't' => some { none with plain := true }
  | _ => Option.none

def union (f g : Flags) : Flags :=
  ⟨f.ignoreCase || g.ignoreCase, f.lines || g.lines, f.anyNewline || g.anyNewline,
    f.verbose || g.verbose, f.ascii || g.ascii, f.unicode || g.unicode, f.locale || g.locale,
    f.plain || g.plain⟩

def inter (f g : Flags) : Flags :=
  ⟨f.ignoreCase && g.ignoreCase, f.lines && g.lines, f.anyNewline && g.anyNewline,
    f.verbose && g.verbose, f.ascii && g.ascii, f.unicode && g.unicode, f.locale && g.locale,
    f.plain && g.plain⟩

def diff (f g : Flags) : Flags :=
  ⟨f.ignoreCase && !g.ignoreCase, f.lines && !g.lines, f.anyNewline && !g.anyNewline,
    f.verbose && !g.verbose, f.ascii && !g.ascii, f.unicode && !g.unicode, f.locale && !g.locale,
    f.plain && !g.plain⟩

def alphabets (f : Flags) : Nat := f.ascii.toNat + f.unicode.toNat + f.locale.toNat

/-- The flags of a part that turns some on and others off. An alphabet replaces the one before. -/
def within (f on off : Flags) : Flags :=
  let f := if 0 < on.alphabets then
    { f with ascii := false, unicode := false, locale := false } else f
  (f.union on).diff off

end Flags

abbrev Names := List Char → Option Nat

def Names.none : Names := fun _ => Option.none

/-- Where the reader stands: the rest of the text from the next token on and its position, the flags
of the whole pattern, the width of each group that is closed, the names of groups, how many groups
there were where a look-behind began, and where conditions name groups by number. -/
structure Scan where
  codeOf : Names
  isText : Bool
  rest : List Char
  position : Nat
  flags : Flags
  widths : List (Option Width)
  names : List (List Char × Nat)
  lookBehind : Option Nat
  conditions : List (Nat × Nat)

inductive Halt where
  | cause (c : PatternCause) (position : Option Nat)
  | whole (r : PatternRejection)

abbrev Reading := StateT Scan (Except Halt)

def fail {α : Type} (c : PatternCause) (back : Nat) : Reading α := do
  throw (.cause c (some ((← get).position - back)))

def tokenOf : List Char → Option (List Char)
  | [] => none
  | '\\' :: c :: _ => some ['\\', c]
  | c :: _ => some [c]

def peek : Reading (Option (List Char)) := return tokenOf (← get).rest

def checkNext : Reading Unit := do
  let s ← get
  if s.rest == ['\\'] then fail .endsInEscape 0

def advance : Reading Unit := do
  match tokenOf (← get).rest with
  | some t => modify fun s =>
      { s with rest := s.rest.drop t.length, position := s.position + t.length }
  | none => pure ()
  checkNext

def next : Reading (Option (List Char)) := do
  let t ← peek
  advance
  return t

def accept (c : Char) : Reading Bool := do
  if (← peek) == some [c] then
    advance
    return true
  return false

def readWhile (p : Char → Bool) : Nat → Reading (List Char)
  | 0 => return []
  | n + 1 => do
    match ← peek with
    | some [c] =>
      if p c then
        advance
        return c :: (← readWhile p n)
      return []
    | _ => return []

def readName (terminator : Char) (what : String) (read : List Char) : Nat → Reading (List Char)
  | 0 => fail .unexpectedEnd 0
  | fuel + 1 => do
    match ← next with
    | none =>
      if read.isEmpty then fail (.missingName what) 0
      else fail (.unterminatedName terminator) read.length
    | some t =>
      if t == [terminator] then
        if read.isEmpty then fail (.missingName what) 1
        return read
      readName terminator what (read ++ t) fuel

def readUntil (terminator : Char) (what : String) : Reading (List Char) := do
  readName terminator what [] ((← get).rest.length + 1)

def checkGroupName (name : List Char) : Reading Unit := do
  if !Text.isIdentifier name then fail (.badGroupName (String.ofList name)) (name.length + 1)

def groupCount : Reading Nat := return (← get).widths.length + 1

def closedWidth? (index : Nat) : Reading (Option Width) := do
  if index == 0 then return none
  return ((← get).widths[index - 1]?).join

/-- In a look-behind only groups closed before it may be referred to. -/
def checkLookBehind (index : Nat) : Reading Unit := do
  match (← get).lookBehind with
  | none => pure ()
  | some count =>
    if (← closedWidth? index).isNone then fail .openGroup 0
    if count ≤ index then fail .sameLookBehind 0

def isOctal (c : Char) : Bool := '0' ≤ c && c ≤ '7'
def isHex (c : Char) : Bool := c.isDigit || ('a' ≤ c && c ≤ 'f') || ('A' ≤ c && c ≤ 'F')

def numberIn (base : Nat) (cs : List Char) : Nat := (Number.readDigits? base cs).getD 0

def simpleEscape? : Char → Option Nat
  | 'a' => some 7
  | 'b' => some 8
  | 'f' => some 12
  | 'n' => some 10
  | 'r' => some 13
  | 't' => some 9
  | 'v' => some 11
  | '\\' => some 92
  | _ => none

def propertyEscape? : Char → Option ClassItem
  | 'd' => some (.property .digit true)
  | 'D' => some (.property .digit false)
  | 's' => some (.property .blank true)
  | 'S' => some (.property .blank false)
  | 'w' => some (.property .word true)
  | 'W' => some (.property .word false)
  | _ => none

def badEscape {α : Type} (escape : List Char) : Reading α :=
  fail (.badEscape (String.ofList escape)) escape.length

def hexEscape (escape : List Char) (count : Nat) : Reading Nat := do
  let digits ← readWhile isHex count
  let escape := escape ++ digits
  if digits.length != count then
    fail (.incompleteEscape (String.ofList escape)) escape.length
  let n := numberIn 16 digits
  if Text.codeLimit ≤ n then throw (.whole .codeTooLarge)
  if 0x110000 ≤ n then badEscape escape
  return n

def codeEscape? (c : Char) : Reading (Option Nat) := do
  let isText := (← get).isText
  if c == 'x' then return some (← hexEscape ['\\', 'x'] 2)
  else if c == 'u' && isText then return some (← hexEscape ['\\', 'u'] 4)
  else if c == 'U' && isText then return some (← hexEscape ['\\', 'U'] 8)
  else if c == 'N' && isText then
    if !(← accept '\x7b') then fail .missingBrace 0
    let name ← readUntil '\x7d' "character name"
    match (← get).codeOf name with
    | some n => return some n
    | none => fail (.undefinedCharacter (String.ofList name)) (name.length + 4)
  else return none

def selfEscape (c : Char) : Reading Nat :=
  if c.isAlpha then badEscape ['\\', c] else return c.toNat

inductive ClassAtom where
  | code (n : Nat)
  | item (i : ClassItem)

def ClassAtom.toItem : ClassAtom → ClassItem
  | .code n => .range n n
  | .item i => i

def classEscape (c : Char) : Reading ClassAtom := do
  if let some n := simpleEscape? c then return .code n
  if let some i := propertyEscape? c then return .item i
  if let some n ← codeEscape? c then return .code n
  if isOctal c then
    let digits := c :: (← readWhile isOctal 2)
    let n := numberIn 8 digits
    if 0o377 < n then
      fail (.octalRange (String.ofList ('\\' :: digits))) (digits.length + 1)
    return .code n
  if c.isDigit then badEscape ['\\', c]
  return .code (← selfEscape c)

def classAtom (t : List Char) : Reading ClassAtom :=
  match t with
  | [c] => return .code c.toNat
  | _ :: c :: _ => classEscape c
  | [] => return .code 0

def readClass (start : Nat) (items : List ClassItem) : Nat → Reading (List ClassItem)
  | 0 => fail .unterminatedSet 0
  | fuel + 1 => do
    let unterminated {α : Type} : Reading α := do
      throw (.cause .unterminatedSet (some start))
    match ← next with
    | none => unterminated
    | some this =>
      if this == [']'] && !items.isEmpty then return items
      let low ← classAtom this
      if ← accept '-' then
        match ← next with
        | none => unterminated
        | some that =>
          if that == [']'] then return items ++ [low.toItem, .range 45 45]
          let high ← classAtom that
          let bad {α : Type} : Reading α :=
            fail (.badRange (String.ofList this) (String.ofList that))
              (this.length + 1 + that.length)
          match low, high with
          | .code a, .code b =>
            if b < a then bad
            readClass start (items ++ [.range a b]) fuel
          | _, _ => bad
      else readClass start (items ++ [low.toItem]) fuel

def literal (flags : Flags) (n : Nat) : Pattern :=
  .one ⟨false, [.range n n], flags.ignoreCase, flags.ascii⟩

/-- A back reference by number, or an octal escape: up to three octal digits in all. -/
def readReference (flags : Flags) (c : Char) : Reading Pattern := do
  let mut digits := [c]
  match ← peek with
  | some [d] =>
    if d.isDigit then
      advance
      digits := [c, d]
      if isOctal c && isOctal d then
        match ← peek with
        | some [e] =>
          if isOctal e then
            advance
            let n := numberIn 8 [c, d, e]
            if 0o377 < n then
              fail (.octalRange (String.ofList ['\\', c, d, e])) 4
            return literal flags n
        | _ => pure ()
  | _ => pure ()
  let index := numberIn 10 digits
  if index < (← groupCount) then
    match ← closedWidth? index with
    | none => fail .openGroup (digits.length + 1)
    | some w =>
      checkLookBehind index
      return .reference index flags.ignoreCase flags.ascii w
  fail (.invalidReference index) digits.length

def readEscape (flags : Flags) (c : Char) : Reading Pattern := do
  if c == 'A' then return .anchor .textStart
  if c == 'Z' then return .anchor .textEnd
  if c == 'b' then return .anchor (.wordEdge flags.ascii)
  if c == 'B' then return .anchor (.noWordEdge flags.ascii)
  if let some i := propertyEscape? c then
    return .one ⟨false, [i], flags.ignoreCase, flags.ascii⟩
  if let some n := simpleEscape? c then return literal flags n
  if let some n ← codeEscape? c then return literal flags n
  if c == '0' then
    return literal flags (numberIn 8 (c :: (← readWhile isOctal 2)))
  if c.isDigit then return ← readReference flags c
  return literal flags (← selfEscape c)

/-- No repetition reaches this count. -/
def repetitionLimit : Nat := 4294967295

/-- The count that digits write. Too many digits are not read as a number at all. -/
def readCount (digits : List Char) : Reading Nat := do
  if Number.digitLimit < digits.length then throw (.whole (.longCount digits.length))
  let n := numberIn 10 digits
  if repetitionLimit ≤ n then throw (.whole .repetitionTooLarge)
  return n

def readBounds? (start : Nat) : Reading (Option (Nat × Option Nat)) := do
  if (← peek) == some ['\x7d'] then return none
  let length := (← get).rest.length
  let low ← readWhile Char.isDigit length
  let high ← if ← accept ',' then readWhile Char.isDigit length else pure low
  if !(← accept '\x7d') then return none
  let least ← if low.isEmpty then pure 0 else readCount low
  if high.isEmpty then return some (least, none)
  let greatest ← readCount high
  if greatest < least then throw (.cause .minAboveMax (some start))
  return some (least, some greatest)

def repeatLast (start : Nat) (bounds : Nat × Option Nat) (items : List Pattern) :
    Reading (List Pattern) := do
  let refuse {α : Type} (c : PatternCause) : Reading α := throw (.cause c (some (start - 1)))
  match items with
  | [] => refuse .nothingToRepeat
  | .anchor _ :: _ => refuse .nothingToRepeat
  | .repetition .. :: _ => refuse .multipleRepeat
  | item :: before =>
    let isLazy ← accept '?'
    let isPossessive ← if isLazy then pure false else accept '+'
    let greed := if isLazy then Greed.lazy else if isPossessive then .possessive else .greedy
    return .repetition bounds.1 bounds.2 greed item :: before

def isWordless (t : List Char) : Bool :=
  match t with
  | [c] => Text.isIdentifierStart c && c != '_'
  | _ => false

def badFlag {α : Type} (t : List Char) (missing : PatternCause) : Reading α :=
  fail (if isWordless t then .unknownFlag else missing) t.length

def flagOf? (t : List Char) : Option Flags :=
  match t with
  | [c] => Flags.ofLetter? c
  | _ => none

def readFlagsOn (on : Flags) (t : List Char) : Nat → Reading (Flags × List Char)
  | 0 => fail .missingFlagEnd 0
  | fuel + 1 => do
    match flagOf? t with
    | none => badFlag t .missingFlagEnd
    | some f =>
      if (← get).isText then
        if f.locale then fail .localeFlag 0
      else if f.unicode then fail .unicodeFlag 0
      let on := on.union f
      if 0 < f.alphabets && 1 < on.alphabets then fail .incompatibleFlags 0
      match ← next with
      | none => fail .missingFlagEnd 0
      | some t =>
        if t == [')'] || t == ['-'] || t == [':'] then return (on, t)
        readFlagsOn on t fuel

def readFlagsOff (off : Flags) (t : List Char) : Nat → Reading Flags
  | 0 => fail .missingColon 0
  | fuel + 1 => do
    match flagOf? t with
    | none => badFlag t .missingColon
    | some f =>
      if 0 < f.alphabets then fail .alphabetOff 0
      let off := off.union f
      match ← next with
      | none => fail .missingColon 0
      | some t =>
        if t == [':'] then return off
        readFlagsOff off t fuel

def readFlags (t : List Char) : Reading (Option (Flags × Flags)) := do
  let fuel := (← get).rest.length + 1
  let (on, t) ← if t == ['-'] then pure (Flags.none, t) else readFlagsOn Flags.none t fuel
  if t == [')'] then
    modify fun s => { s with flags := s.flags.union on }
    return none
  if on.plain then fail .globalOn 1
  let off ← if t == ['-'] then do
      match ← next with
      | none => fail .missingFlag 0
      | some t =>
        if (flagOf? t).isNone then badFlag t .missingFlag
        readFlagsOff Flags.none t fuel
    else pure Flags.none
  if off.plain then fail .globalOff 1
  if on.inter off != Flags.none then fail .onAndOff 1
  return some (on, off)

def sequence (items : List Pattern) : Pattern :=
  match items with
  | [] => .empty
  | [p] => p
  | p :: ps => .seq p (sequence ps)

def alternatives (first : Pattern) (others : List Pattern) : Pattern :=
  match others with
  | [] => first
  | p :: ps => .alt first (alternatives p ps)

def openGroup (name : Option (List Char)) : Reading Nat := do
  let index ← groupCount
  match name with
  | none => pure ()
  | some n =>
    match (← get).names.find? (·.1 == n) with
    | some (_, before) =>
      fail (.redefinition (String.ofList n) index before) (n.length + 1)
    | none => modify fun s => { s with names := s.names ++ [(n, index)] }
  modify fun s => { s with widths := s.widths ++ [none] }
  return index

def closeGroup (index : Nat) (p : Pattern) : Reading Unit :=
  modify fun s => { s with widths := s.widths.set (index - 1) (some p.width) }

def skipComment (start : Nat) : Nat → Reading Unit
  | 0 => pure ()
  | fuel + 1 => do
    match ← peek with
    | none => throw (.cause .unterminatedComment (some start))
    | some _ =>
      if (← next) == some [')'] then return
      skipComment start fuel

def skipLine : Nat → Reading Unit
  | 0 => pure ()
  | fuel + 1 => do
    match ← next with
    | none => return
    | some t => if t == ['\n'] then return else skipLine fuel

def groupLimit : Nat := 1073741823

/-- The number that a condition names a group by; none where it is too long to be read. -/
def groupNumber? (name : List Char) : Option Int :=
  if Number.digitLimit < name.countP Text.isDecimal then none else Number.readLooseInt? 10 name

def readCondition : Reading Nat := do
  let name ← readUntil ')' "group name"
  let index ← if Text.isIdentifier name then do
      match (← get).names.find? (·.1 == name) with
      | some (_, i) => pure i
      | none => fail (.unknownGroupName (String.ofList name)) (name.length + 1)
    else
      match groupNumber? name with
      | some (.ofNat 0) => fail .badGroupNumber (name.length + 1)
      | some (.ofNat n) => do
        if groupLimit ≤ n then fail (.invalidReference n) (name.length + 1)
        let s ← get
        if !s.conditions.any (·.1 == n) then
          set { s with conditions := s.conditions ++ [(n, s.position - name.length - 1)] }
        pure n
      | _ => fail (.badGroupName (String.ofList name)) (name.length + 1)
  checkLookBehind index
  return index

def closeParenthesis (start : Nat) : Reading Unit := do
  if !(← accept ')') then throw (.cause .unterminatedGroup (some start))

def lineAnchor (flags : Flags) : Anchor := if flags.lines then .lineStart else .textStart
def lastAnchor (flags : Flags) : Anchor := if flags.lines then .lineEnd else .lastLineEnd

mutual

def readAlternatives (flags : Flags) (nested : Bool) : Nat → Reading Pattern
  | 0 => fail .unexpectedEnd 0
  | fuel + 1 => do
    let first ← readSequence flags nested (!nested) [] fuel
    return alternatives first (← readOthers flags nested fuel)

def readOthers (flags : Flags) (nested : Bool) : Nat → Reading (List Pattern)
  | 0 => return []
  | fuel + 1 => do
    if ← accept '|' then
      let p ← readSequence flags nested false [] fuel
      return p :: (← readOthers flags nested fuel)
    return []

def readSequence (flags : Flags) (nested first : Bool) (items : List Pattern) :
    Nat → Reading Pattern
  | 0 => fail .unexpectedEnd 0
  | fuel + 1 => do
    let here ← get
    let flags := if nested then flags else here.flags
    let more (items : List Pattern) : Reading Pattern :=
      readSequence flags nested first items fuel
    match ← peek with
    | none => return sequence items.reverse
    | some t =>
      if t == ['|'] || t == [')'] then return sequence items.reverse
      advance
      match t with
      | [c] =>
        if flags.verbose && (c == ' ' || (9 ≤ c.toNat && c.toNat ≤ 13)) then more items
        else if flags.verbose && c == '#' then
          skipLine ((← get).rest.length + 1)
          more items
        else if c == '.' then more (.any flags.anyNewline :: items)
        else if c == '^' then more (.anchor (lineAnchor flags) :: items)
        else if c == '$' then more (.anchor (lastAnchor flags) :: items)
        else if c == '[' then
          let start := (← get).position - 1
          let negated ← accept '^'
          let members ← readClass start [] ((← get).rest.length + 1)
          more (.one ⟨negated, members, flags.ignoreCase, flags.ascii⟩ :: items)
        else if c == '?' || c == '*' || c == '+' then
          let bounds := if c == '?' then (0, some 1) else if c == '*' then (0, none) else (1, none)
          more (← repeatLast (← get).position bounds items)
        else if c == '\x7b' then
          let here ← get
          match ← readBounds? here.position with
          | some bounds => more (← repeatLast here.position bounds items)
          | none =>
            set here
            more (literal flags c.toNat :: items)
        else if c == '(' then
          match ← readGroup flags nested first items.isEmpty fuel with
          | some p => more (p :: items)
          | none => more items
        else more (literal flags c.toNat :: items)
      | _ :: c :: _ => more ((← readEscape flags c) :: items)
      | [] => more items

/-- What an opening parenthesis starts; none for comments and flags of the whole pattern. -/
def readGroup (flags : Flags) (nested first alone : Bool) : Nat → Reading (Option Pattern)
  | 0 => fail .unexpectedEnd 0
  | fuel + 1 => do
    let start := (← get).position - 1
    if !(← accept '?') then return some (← readCapture flags none start fuel)
    match ← next with
    | none => fail .unexpectedEnd 0
    | some t =>
    if t == ['P'] then
      if ← accept '<' then
        let name ← readUntil '>' "group name"
        checkGroupName name
        return some (← readCapture flags (some name) start fuel)
      if ← accept '=' then
        let name ← readUntil ')' "group name"
        checkGroupName name
        match (← get).names.find? (·.1 == name) with
        | none => fail (.unknownGroupName (String.ofList name)) (name.length + 1)
        | some (_, index) =>
          match ← closedWidth? index with
          | none => fail .openGroup (name.length + 1)
          | some w =>
            checkLookBehind index
            return some (.reference index flags.ignoreCase flags.ascii w)
      match ← next with
      | none => fail .unexpectedEnd 0
      | some t => fail (.unknownExtension (String.ofList ('?' :: 'P' :: t))) (t.length + 2)
    if t == [':'] then return some (.scope (← readBody flags start fuel))
    if t == ['#'] then
      skipComment start ((← get).rest.length + 1)
      return none
    if t == ['='] || t == ['!'] then
      return some (.look true (t == ['!']) (← readBody flags start fuel))
    if t == ['<'] then
      match ← next with
      | none => fail .unexpectedEnd 0
      | some t =>
        if t != ['='] && t != ['!'] then
          fail (.unknownExtension (String.ofList ('?' :: '<' :: t))) (t.length + 2)
        let outer := (← get).lookBehind
        if outer.isNone then
          let count ← groupCount
          modify fun s => { s with lookBehind := some count }
        let p ← readAlternatives flags true fuel
        if outer.isNone then modify fun s => { s with lookBehind := none }
        closeParenthesis start
        return some (.look false (t == ['!']) p)
    if t == ['('] then
      let index ← readCondition
      let yes ← readSequence flags true false [] fuel
      let no ← if ← accept '|' then do
          let no ← readSequence flags true false [] fuel
          if (← peek) == some ['|'] then fail .tooManyBranches 0
          pure no
        else pure .empty
      closeParenthesis start
      return some (.conditional index yes no)
    if t == ['>'] then return some (.atomic (← readBody flags start fuel))
    if (flagOf? t).isSome || t == ['-'] then
      match ← readFlags t with
      | none =>
        if nested || !first || !alone then
          throw (.cause .misplacedFlags (some start))
        return none
      | some (on, off) => return some (.scope (← readBody (flags.within on off) start fuel))
    fail (.unknownExtension (String.ofList ('?' :: t))) (t.length + 1)

def readBody (flags : Flags) (start : Nat) : Nat → Reading Pattern
  | 0 => fail .unexpectedEnd 0
  | fuel + 1 => do
    let p ← readAlternatives flags true fuel
    closeParenthesis start
    return p

def readCapture (flags : Flags) (name : Option (List Char)) (start : Nat) : Nat → Reading Pattern
  | 0 => fail .unexpectedEnd 0
  | fuel + 1 => do
    let index ← openGroup name
    let p ← readBody flags start fuel
    closeGroup index p
    return .group index p

end

/-- A fault that shows only when the parts are put together, in the order of the parts. -/
def partFault? (plain : Bool) : Pattern → Option PatternCause
  | .seq a b => (partFault? plain a).or (partFault? plain b)
  | .alt a b => (partFault? plain a).or (partFault? plain b)
  | .scope p => partFault? plain p
  | .group _ p => partFault? plain p
  | .repetition _ _ greed p =>
    if plain then
      some (.plainTemplate (match greed with
        | .greedy => "MAX_REPEAT"
        | .lazy => "MIN_REPEAT"
        | .possessive => "POSSESSIVE_REPEAT"))
    else partFault? plain p
  | .look ahead _ p =>
    if !ahead && repetitionLimit < p.width.least then some .tooFarBehind
    else if !ahead && p.width.least != p.width.greatest then some .lookBehindWidth
    else partFault? plain p
  | .atomic p => partFault? plain p
  | .conditional _ a b => (partFault? plain a).or (partFault? plain b)
  | _ => none

def readWhole : Reading Pattern := do
  checkNext
  let p ← readAlternatives Flags.none false (4 * (← get).rest.length + 4)
  let s ← get
  if s.isText && s.flags.ascii && s.flags.unicode then throw (.whole .alphabetClash)
  if !s.isText && s.flags.ascii && s.flags.locale then throw (.whole .localeClash)
  if !s.rest.isEmpty then fail .unbalanced 0
  for (index, position) in s.conditions do
    if s.widths.length + 1 ≤ index then
      throw (.cause (.invalidReference index) (some position))
  match partFault? s.flags.plain p with
  | some c => throw (.cause c none)
  | none => return p

def read (codeOf : Names) (isText : Bool) (cs : List Char) : Except PatternRejection Pattern :=
  match readWhole.run ⟨codeOf, isText, cs, 0, .none, [], [], none, []⟩ with
  | .ok (p, _) => .ok p
  | .error (.cause c (some position)) => .error (.malformed (.at isText c cs position))
  | .error (.cause c none) => .error (.malformed ⟨isText, c, none, none⟩)
  | .error (.whole r) => .error r

end Intake.Pattern
