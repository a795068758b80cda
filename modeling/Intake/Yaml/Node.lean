import Intake.Yaml.Tag
import Intake.Yaml.Token

/-! The tree of nodes that a document writes. An alias stands for the node with its anchor; inside
of that node it stands for an empty one. -/

namespace Intake.Yaml

inductive Node where
  | scalar (tag : Tag) (text : String)
  | sequence (tag : Tag) (items : List Node)
  | mapping (tag : Tag) (entries : List (Node × Node))

namespace Node

def tag : Node → Tag
  | .scalar t _ => t
  | .sequence t _ => t
  | .mapping t _ => t

def empty : Node := .scalar .null ""

end Node

structure Progress where
  tokens : List Token
  anchors : List (String × Node)

abbrev Building := StateT Progress Option

namespace Building

def peek : Building (Option Token) := return (← get).tokens.head?

def advance : Building Unit := modify fun p => { p with tokens := p.tokens.drop 1 }

def sees (ts : List Token) : Building Bool := return (← peek).any ts.contains

def accept (t : Token) : Building Bool := do
  if ← sees [t] then
    advance
    return true
  else return false

def expect (t : Token) : Building Unit := do
  if !(← accept t) then failure

def plainHandles : List (String × String) := [("!", "!"), ("!!", Tag.stem)]

def writtenTag (handles : List (String × String)) : Building (Option String) := do
  match ← peek with
  | some (.tag handle suffix) =>
    advance
    match handle with
    | none => return some suffix
    | some h =>
      let (_, stem) ← (handles.find? (·.1 == h) : Option _)
      return some (stem ++ suffix)
  | _ => return none

def writtenAnchor : Building (Option String) := do
  match ← peek with
  | some (.anchor name) =>
    advance
    if (← get).anchors.any (·.1 == name) then failure
    return some name
  | _ => return none

def properties (handles : List (String × String)) :
    Building (Option String × Option String) := do
  match ← writtenAnchor with
  | some name => return (some name, ← writtenTag handles)
  | none =>
    let tag ← writtenTag handles
    if tag.isSome then return (← writtenAnchor, tag) else return (none, none)

def remember (anchor : Option String) (n : Node) : Building Unit :=
  match anchor with
  | some name => modify fun p => { p with anchors := (name, n) :: p.anchors }
  | none => pure ()

def isOpenTag (tag : Option String) : Bool := tag.all (· == "!")

def collectionTag (default : Tag) (tag : Option String) : Tag :=
  if isOpenTag tag then default else (tag.map Tag.ofUri).getD default

def scalarTag (plain : Bool) (tag : Option String) (text : String) : Tag :=
  match tag with
  | none => if plain then Tag.ofPlain text.toList else .text
  | some "!" => Tag.ofPlain text.toList
  | some uri => Tag.ofUri uri

/-- Where a node stands: in a flow collection, in a block, or as key or value in a block mapping,
where a sequence need not be indented. -/
inductive Position where
  | flow
  | block
  | entry
  deriving Repr, DecidableEq

mutual

def node (handles : List (String × String)) (position : Position) : Nat → Building Node
  | 0 => failure
  | fuel + 1 => do
    if let some (.alias name) ← peek then
      advance
      let (_, n) ← ((← get).anchors.find? (·.1 == name) : Option _)
      return n
    let (anchor, tag) ← properties handles
    let sequence (items : Building (List Node)) : Building Node := do
      let t := collectionTag .sequence tag
      remember anchor (.sequence t [])
      let n := Node.sequence t (← items)
      remember anchor n
      return n
    let mapping (entries : Building (List (Node × Node))) : Building Node := do
      let t := collectionTag .mapping tag
      remember anchor (.mapping t [])
      let n := Node.mapping t (← entries)
      remember anchor n
      return n
    let scalar (plain : Bool) (text : String) : Building Node := do
      let n := Node.scalar (scalarTag plain tag text) text
      remember anchor n
      return n
    match ← peek with
    | some (.scalar text plain) =>
      advance
      scalar plain text
    | some .openSequence =>
      advance
      sequence (flowItems handles true fuel)
    | some .openMapping =>
      advance
      mapping (flowEntries handles true fuel)
    | some .entry =>
      if position == .entry then sequence (looseItems handles fuel)
      else if anchor.isSome || tag.isSome then scalar true ""
      else failure
    | t =>
      if t == some .blockSequence && position != .flow then
        advance
        sequence (blockItems handles fuel)
      else if t == some .blockMapping && position != .flow then
        advance
        mapping (blockEntries handles fuel)
      else if anchor.isSome || tag.isSome then scalar true ""
      else failure

def nodeBefore (handles : List (String × String)) (position : Position) (ends : List Token) :
    Nat → Building Node
  | 0 => failure
  | fuel + 1 => do
    if ← sees ends then return .empty else node handles position fuel

def flowItems (handles : List (String × String)) (first : Bool) : Nat → Building (List Node)
  | 0 => failure
  | fuel + 1 => do
    if ← accept .closeSequence then return []
    if !first then expect .comma
    if ← accept .closeSequence then return []
    let item ← if ← accept .key then do
        let k ← nodeBefore handles .flow [.value, .comma, .closeSequence] fuel
        let v ← if ← accept .value then nodeBefore handles .flow [.comma, .closeSequence] fuel
          else pure .empty
        pure (.mapping .mapping [(k, v)])
      else node handles .flow fuel
    return item :: (← flowItems handles false fuel)

def flowEntries (handles : List (String × String)) (first : Bool) :
    Nat → Building (List (Node × Node))
  | 0 => failure
  | fuel + 1 => do
    if ← accept .closeMapping then return []
    if !first then expect .comma
    if ← accept .closeMapping then return []
    let entry ← if ← accept .key then do
        let k ← nodeBefore handles .flow [.value, .comma, .closeMapping] fuel
        let v ← if ← accept .value then nodeBefore handles .flow [.comma, .closeMapping] fuel
          else pure .empty
        pure (k, v)
      else do
        let k ← node handles .flow fuel
        pure (k, .empty)
    return entry :: (← flowEntries handles false fuel)

def blockItems (handles : List (String × String)) : Nat → Building (List Node)
  | 0 => failure
  | fuel + 1 => do
    if ← accept .entry then
      let item ← nodeBefore handles .block [.entry, .blockEnd] fuel
      return item :: (← blockItems handles fuel)
    expect .blockEnd
    return []

def looseItems (handles : List (String × String)) : Nat → Building (List Node)
  | 0 => failure
  | fuel + 1 => do
    if ← accept .entry then
      let item ← nodeBefore handles .block [.entry, .key, .value, .blockEnd] fuel
      return item :: (← looseItems handles fuel)
    return []

def blockEntries (handles : List (String × String)) : Nat → Building (List (Node × Node))
  | 0 => failure
  | fuel + 1 => do
    if ← accept .key then
      let ends : List Token := [.key, .value, .blockEnd]
      let k ← nodeBefore handles .entry ends fuel
      let v ← if ← accept .value then nodeBefore handles .entry ends fuel else pure .empty
      return (k, v) :: (← blockEntries handles fuel)
    expect .blockEnd
    return []

end

/-- The handles that directives declare, each once, before the plain ones; the version, told at most
once, has to be a first one. -/
def directives (versioned : Bool) (declared : List (String × String)) :
    List Token → Option (List (String × String) × List Token)
  | .version major :: ts =>
    if versioned || major != 1 then none else directives true declared ts
  | .handle name stem :: ts =>
    if declared.any (·.1 == name) then none
    else directives versioned ((name, stem) :: declared) ts
  | .reserved :: ts => directives versioned declared ts
  | ts => some (declared ++ plainHandles, ts)

def rootAfterMark (handles : List (String × String)) (fuel : Nat) : Building Node := do
  match ← peek with
  | none => return .empty
  | some (.version _) => return .empty
  | some (.handle ..) => return .empty
  | some t =>
    if [.reserved, .documentStart, .documentEnd].contains t then return .empty
    else node handles .block fuel

def document : Building (Option Node) := do
  let p ← get
  let (handles, ts) ← directives false [] p.tokens
  let fuel := 4 * p.tokens.length + 4
  let root ← if ts.isEmpty && p.tokens.isEmpty then pure none
    else if ts.head? == some .documentStart then do
      set { p with tokens := ts.drop 1 }
      some <$> rootAfterMark handles fuel
    else if ts.length < p.tokens.length then failure
    else some <$> node handles .block fuel
  if (← get).tokens.all (· == .documentEnd) then return root else failure

end Building

def Node.ofTokens? (tokens : List Token) : Option (Option Node) :=
  (Building.document.run ⟨tokens, []⟩).map (·.1)

end Intake.Yaml
