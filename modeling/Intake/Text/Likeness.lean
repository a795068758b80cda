/-! How alike two texts are: the share of their characters that matching blocks cover. The longest
block that both have is matched first, of equally long ones the leftmost, and then in the same way
what is to the left of it and what is to the right. -/

namespace Intake.Text

def commonPrefix : List Char → List Char → Nat
  | a :: as, b :: bs => if a == b then commonPrefix as bs + 1 else 0
  | _, _ => 0

structure Block where
  left : Nat
  right : Nat
  size : Nat
  deriving Repr, DecidableEq

def Block.longer (a b : Block) : Block := if a.size < b.size then b else a

def blockAt (left : Nat) (as bs : List Char) : Block :=
  (List.range bs.length).foldl
    (fun best right => best.longer ⟨left, right, commonPrefix as (bs.drop right)⟩) ⟨left, 0, 0⟩

def longestBlock (as bs : List Char) : Block :=
  (List.range as.length).foldl
    (fun best left => best.longer (blockAt left (as.drop left) bs)) ⟨0, 0, 0⟩

def covered (as bs : List Char) : Nat :=
  match longestBlock as bs with
  | ⟨left, right, size⟩ =>
    if 0 < size ∧ left + size ≤ as.length then
      covered (as.take left) (bs.take right) + size +
        covered (as.drop (left + size)) (bs.drop (right + size))
    else 0
termination_by as.length
decreasing_by
  all_goals simp only [List.length_take, List.length_drop]; omega

def isLike (a b : String) : Bool :=
  3 * (a.length + b.length) ≤ 10 * covered a.toList b.toList

end Intake.Text
