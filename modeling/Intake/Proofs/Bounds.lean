import Intake.Proofs.Numbers

/-! Integers between bounds that are integers. All three are rounded before they are compared, so
neighbours far from zero may count as equal; no integer within its bounds is ever reported, and the
bounds are exact where one of the two integers compared has at most 53 digits. -/

namespace Intake
open Number Number.Binary64

namespace Check

theorem outOfBounds_ok (isBelow isAbove : Bool) (tooSmall tooLarge : String) :
    outOfBounds isBelow isAbove (.ok tooSmall) (.ok tooLarge) =
      .ok ((if isBelow then [tooSmall] else []) ++ if isAbove then [tooLarge] else []) := by
  unfold outOfBounds
  rw [messageIf_ok, messageIf_ok]
  rfl

def tooLow (n least : Int) : String :=
  s!"Input \"{n}\" is too low. Minimum value is: {least}"

def tooHigh (n greatest : Int) : String :=
  s!"Input \"{n}\" is too high. Maximum value is: {greatest}"

theorem tooLow_ne_tooHigh (n least greatest : Int) : tooLow n least ≠ tooHigh n greatest := by
  intro h
  -- the texts part at the tenth letter after the number
  have hlists := congrArg String.toList h
  simp only [tooLow, tooHigh, String.toList_append, List.append_assoc, List.append_cancel_left_eq]
    at hlists
  have hstart := congrArg (List.take 10) hlists
  rw [List.take_append_of_le_length (by decide), List.take_append_of_le_length (by decide)]
    at hstart
  exact absurd hstart (by decide)

theorem number_int {n a b : Int} {u v w : ℚ} (hn : RoundsTo n v (ofInt n))
    (ha : RoundsTo a u (ofInt a)) (hb : RoundsTo b w (ofInt b)) (extra : List (Value × Value)) :
    number (.int n) (.options ⟨.number (.int a) (.int b), extra⟩) =
      .ok ((if (ofInt n).lt (ofInt a) then [tooLow n a] else []) ++
        if (ofInt n).gt (ofInt b) then [tooHigh n b] else []) := by
  unfold number
  rw [Value.toNumber_int hn]
  have hbounds : numberBounds (.options ⟨.number (.int a) (.int b), extra⟩) =
      .ok (.int a, .int b) := rfl
  simp only [hbounds, Value.toNumber_int ha, Value.toNumber_int hb, Value.written_int hn,
    Value.written_int ha, Value.written_int hb, ok_bind]
  exact outOfBounds_ok _ _ _ _

structure Tells (messages : List String) (n a b : Int) (low high : Prop) : Prop where
  passes : messages = [] ↔ ¬low ∧ ¬high
  low : tooLow n a ∈ messages ↔ low
  high : tooHigh n b ∈ messages ↔ high

theorem tells_of_eq (n a b : Int) {isLow isHigh : Bool} :
    Tells ((if isLow then [tooLow n a] else []) ++ if isHigh then [tooHigh n b] else []) n a b
      (isLow = true) (isHigh = true) := by
  have hne := tooLow_ne_tooHigh n a b
  constructor <;> cases isLow <;> cases isHigh <;> simp [hne, hne.symm]

/-- The verdict on an integer compares the binary numbers nearest to it and to its bounds, for all
integers that have one. An integer within its bounds passes, and the verdict on a bound is exact
where the integer or that bound has at most 53 digits. -/
theorem number_between {n a b : Int} (hn : |(n : ℚ)| < overflow) (ha : |(a : ℚ)| < overflow)
    (hb : |(b : ℚ)| < overflow) (extra : List (Value × Value)) :
    ∃ u v w messages, RoundsTo n v (ofInt n) ∧ RoundsTo a u (ofInt a) ∧ RoundsTo b w (ofInt b) ∧
      number (.int n) (.options ⟨.number (.int a) (.int b), extra⟩) = .ok messages ∧
      Tells messages n a b (v < u) (w < v) ∧
      (a ≤ n → n ≤ b → messages = []) ∧
      (|n| < 2 ^ 53 ∨ |a| < 2 ^ 53 → (tooLow n a ∈ messages ↔ n < a)) ∧
      (|n| < 2 ^ 53 ∨ |b| < 2 ^ 53 → (tooHigh n b ∈ messages ↔ b < n)) ∧
      (|n| < 2 ^ 53 ∨ |a| < 2 ^ 53 ∧ |b| < 2 ^ 53 → (messages = [] ↔ a ≤ n ∧ n ≤ b)) := by
  obtain ⟨v, hv⟩ := ofInt_roundsTo hn
  obtain ⟨u, hu⟩ := ofInt_roundsTo ha
  obtain ⟨w, hw⟩ := ofInt_roundsTo hb
  obtain ⟨messages, hmessages⟩ :
      ∃ messages, number (.int n) (.options ⟨.number (.int a) (.int b), extra⟩) = .ok messages :=
    ⟨_, number_int hv hu hw extra⟩
  have htells : Tells messages n a b (v < u) (w < v) := by
    rw [number_int hv hu hw] at hmessages
    rw [← Except.ok.inj hmessages, ← hv.lt_iff hu, ← hv.gt_iff hw]
    exact tells_of_eq n a b
  refine ⟨u, v, w, messages, hv, hu, hw, hmessages, htells, fun hle hge => ?_, fun h => ?_,
    fun h => ?_, fun h => ?_⟩
  · exact htells.passes.2 ⟨not_lt.2 (rounded_le hu hv hle), not_lt.2 (rounded_le hv hw hge)⟩
  · rw [htells.low]
    exact rounded_lt_iff hv hu h
  · rw [htells.high]
    exact rounded_lt_iff hw hv h.symm
  · rw [htells.passes, rounded_lt_iff hv hu (h.imp_right And.left),
      rounded_lt_iff hw hv (h.imp_right And.right).symm, not_lt, not_lt]

/-- Nine is within zero and nine, and the verdict says so. -/
theorem number_between_nine :
    |((9 : Int) : ℚ)| < overflow ∧ |((0 : Int) : ℚ)| < overflow ∧
      ∃ messages, number (.int 9) (.options ⟨.number (.int 0) (.int 9), []⟩) = .ok messages ∧
        messages = [] := by
  have hnine : |((9 : Int) : ℚ)| < overflow := lt_overflow (by norm_num)
  have hzero : |((0 : Int) : ℚ)| < overflow := lt_overflow (by norm_num)
  obtain ⟨u, v, w, messages, -, -, -, hmessages, -, hpasses, -⟩ :=
    number_between hnine hzero hnine []
  exact ⟨hnine, hzero, messages, hmessages, hpasses (by decide) (by decide)⟩

/-- An integer of 54 digits passes although the least value is one more: both are rounded to it. -/
theorem number_below_least :
    number (.int 9007199254740992)
        (.options ⟨.number (.int 9007199254740993) (.int 9007199254740993), []⟩) = .ok [] ∧
      ¬ (9007199254740993 : Int) ≤ 9007199254740992 := by
  exact ⟨rfl, by decide⟩

end Check

end Intake
