import Intake.Pattern.Basic

/-! Searching. A pattern is tried at every place of a text in turn; at each it tries its ways to go
on in order and goes back to the last choice when what follows does not fit. -/

namespace Intake.Pattern

/-- A place in the text with the places between which each group last matched, latest first. -/
structure Place where
  position : Nat
  groups : List (Nat × Nat × Nat)
  deriving Repr, DecidableEq

abbrev Goal := Place → Option Place

def Place.group? (s : Place) (index : Nat) : Option (Nat × Nat) :=
  (s.groups.find? (·.1 == index)).map (·.2)

def isNewline (c : Option Char) : Bool := c == some '\n'

def isWordEdge (ascii : Bool) (before after : Option Char) : Bool :=
  before.any (CharProperty.holds ascii · .word) != after.any (CharProperty.holds ascii · .word)

def Anchor.holds (text : Array Char) (p : Nat) (a : Anchor) : Bool :=
  let before := if p == 0 then none else text[p - 1]?
  let after := text[p]?
  match a with
  | .textStart => p == 0
  | .lineStart => p == 0 || isNewline before
  | .textEnd => p == text.size
  | .lastLineEnd => p == text.size || (p + 1 == text.size && isNewline after)
  | .lineEnd => p == text.size || isNewline after
  | .wordEdge ascii => isWordEdge ascii before after
  | .noWordEdge ascii => !isWordEdge ascii before after

def step (text : Array Char) (p : Char → Bool) (k : Goal) (s : Place) : Option Place :=
  match text[s.position]? with
  | some c => if p c then k { s with position := s.position + 1 } else none
  | none => none

def again (text : Array Char) (fold : Char → Char) (start stop : Nat) (k : Goal) (s : Place) :
    Option Place :=
  let n := stop - start
  let old := (text.extract start stop).map fold
  let new := (text.extract s.position (s.position + n)).map fold
  if old == new then k { s with position := s.position + n } else none

def folding (ignoreCase ascii : Bool) (c : Char) : Char :=
  if ignoreCase then (if ascii then c.toLower else Text.lowerChar c) else c

/-- `body` at least `least` and at most `greatest` times, then `k`. A round beyond the least that
takes up nothing is the last one; `last` is where the round before began. -/
def rounds (body : Goal → Goal) (least : Nat) (greatest : Option Nat) (eager : Bool) (k : Goal) :
    Nat → Nat → Option Nat → Goal
  | 0, _, _ => fun s => k s
  | fuel + 1, count, last => fun s =>
    if count < least then
      body (rounds body least greatest eager k fuel (count + 1) last) s
    else
      let mayGoOn := greatest.all (count < ·) && last != some s.position
      let goOn (_ : Unit) : Option Place :=
        if mayGoOn then
          body (rounds body least greatest eager k fuel (count + 1) (some s.position)) s
        else none
      if eager then
        match goOn () with
        | some r => some r
        | none => k s
      else
        match k s with
        | some r => some r
        | none => goOn ()

def run (text : Array Char) : Pattern → Goal → Goal
  | .empty, k => k
  | .one c, k => step text c.holds k
  | .any newlines, k => step text (fun c => newlines || c != '\n') k
  | .anchor a, k => fun s => if Anchor.holds text s.position a then k s else none
  | .seq a b, k => run text a (run text b k)
  | .alt a b, k => fun s =>
    match run text a k s with
    | some r => some r
    | none => run text b k s
  | .scope p, k => run text p k
  | .group index p, k => fun s =>
    run text p (fun t => k { t with groups := (index, s.position, t.position) :: t.groups }) s
  | .reference index ignoreCase ascii _, k => fun s =>
    match s.group? index with
    | some (start, stop) => again text (folding ignoreCase ascii) start stop k s
    | none => none
  | .repetition least greatest greed p, k => fun s =>
    let fuel := least + (text.size - s.position) + 2
    match greed with
    | .greedy => rounds (run text p) least greatest true k fuel 0 none s
    | .lazy => rounds (run text p) least greatest false k fuel 0 none s
    | .possessive => (rounds (run text p) least greatest true some fuel 0 none s).bind k
  | .look ahead negated p, k => fun s =>
    let back := if ahead then 0 else p.width.least
    let found := if s.position < back then none
      else run text p some { s with position := s.position - back }
    if negated then (if found.isSome then none else k s)
    else found.bind fun t => k { t with position := s.position }
  | .atomic p, k => fun s => (run text p some s).bind k
  | .conditional index yes no, k => fun s =>
    if (s.group? index).isSome then run text yes k s else run text no k s

def occursIn (p : Pattern) (cs : List Char) : Bool :=
  let text := cs.toArray
  (List.range (text.size + 1)).any fun i => (run text p some ⟨i, []⟩).isSome

end Intake.Pattern
