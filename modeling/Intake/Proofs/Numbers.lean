import Intake.Proofs.Faults
import Intake.Proofs.Rounding

/-! The numbers of values. What counts as a number has a place among the numbers, and an integer
that is not too large for one counts as the number nearest to it. -/

namespace Intake
open Number Number.Binary64

@[simp] theorem ok_bind {α β : Type} (x : α) (k : α → Except Fault β) :
    (Except.ok x : Except Fault α) >>= k = k x := rfl

@[simp] theorem ofDecimal_isNan (s : Bool) (digits : Nat) (e : Int) :
    (ofDecimal s digits e).isNan = false := by
  unfold ofDecimal
  split_ifs
  · rfl
  · rfl
  · exact ofRatio_isNan _ _ _
  · rfl
  · exact ofRatio_isNan _ _ _

theorem isNan_of_readNumber? {cs : List Char} {x : Binary64} (h : readNumber? cs = some x) :
    x.isNan = false := by
  unfold readNumber? at h
  dsimp only at h
  split at h
  · cases h
    rfl
  · obtain ⟨n, -, rfl⟩ := Option.map_eq_some_iff.1 h
    exact ofDecimal_isNan _ _ _

theorem Value.exists_place_of_toNumber {v : Value} {x : Binary64} (h : v.toNumber = .ok (some x)) :
    ∃ p, x.place? = some p := by
  apply exists_place
  cases v with
  | int n =>
    unfold toNumber at h
    dsimp only at h
    split at h
    · cases h
    · cases h
      exact ofRatio_isNan _ _ _
  | float y =>
    cases hy : y.isNan with
    | true => simp [toNumber, hy] at h
    | false =>
      simp only [toNumber, hy] at h
      cases h
      exact hy
  | text s =>
    unfold toNumber at h
    exact isNan_of_readNumber? (Except.ok.inj h)
  | _ => cases h

theorem Value.toNumber_int {n : Int} {v : ℚ} (h : RoundsTo n v (ofInt n)) :
    (Value.int n).toNumber = .ok (some (ofInt n)) := by
  unfold toNumber
  simp only [h.isInfinite_eq]
  rfl

theorem Value.exists_roundsTo_of_toNumber {n : Int} {x : Option Binary64}
    (h : (Value.int n).toNumber = .ok x) : ∃ v, RoundsTo n v (ofInt n) ∧ x = some (ofInt n) := by
  unfold toNumber at h
  cases hn : (ofInt n).isInfinite with
  | true => simp [hn] at h
  | false =>
    obtain ⟨v, hv⟩ := exists_roundsTo_of_finite hn
    simp only [hn] at h
    cases h
    exact ⟨v, hv, rfl⟩

theorem Value.written_int {n : Int} {v : ℚ} (h : RoundsTo n v (ofInt n)) :
    (Value.int n).written = .ok (toString n) :=
  written_eq (isWritable_of_int h.isInfinite_eq)

namespace Check

@[simp] theorem messageIf_ok (wrong : Bool) (message : String) :
    messageIf wrong (.ok message) = .ok (if wrong then [message] else []) := by
  cases wrong <;> rfl

end Check

end Intake
