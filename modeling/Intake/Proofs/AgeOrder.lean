import Intake.Proofs.Ages
import Intake.Proofs.DayNumbers

/-! The order of ages. Who is old enough on a day stays so on later days, who was born no later is
old enough too, and so is everyone for whom less is asked. Only an integer too far below zero to be
a binary number is not compared at all. -/

namespace Intake
open Number Number.Binary64

/-- The number that a least age stands for. An integer stands for itself, also where it would be
rounded, and what can be read as a number for that number. -/
inductive Value.StandsFor : Value → Place → Prop where
  | int (n : Int) : StandsFor (.int n) (.of n)
  | read {v : Value} {x : Binary64} {p : Place} (hread : v.toNumber = .ok (some x))
      (hplace : x.place? = some p) : StandsFor v p

namespace Calendar.Date

theorem number_le_iff {a b : Date} : a.number ≤ b.number ↔ ¬b.IsBefore a := by
  rw [← not_lt, number_lt_iff]

/-- The years between two days reach an age, and not only with a birthday that is still ahead. -/
def HasReached (born today : Date) (p : Place) : Prop :=
  p < .of (today.year - born.year : Int) ∨
    p = .of (today.year - born.year : Int) ∧ ¬born.IsAhead today

section
variable {born born' today today' : Date} {p p' : Place}

theorem HasReached.le (h : born.HasReached today p) :
    p ≤ .of (today.year - born.year : Int) := h.elim le_of_lt fun heq => heq.1.le

theorem not_isAhead_of_le (hborn : born'.number ≤ born.number)
    (htoday : today.number ≤ today'.number)
    (hyears : (today'.year : Int) - born'.year = today.year - born.year)
    (h : ¬born.IsAhead today) : ¬born'.IsAhead today' := by
  rw [number_le_iff] at hborn htoday
  unfold IsBefore at hborn htoday
  unfold IsAhead at h ⊢
  omega

theorem HasReached.mono (h : born.HasReached today p) (hborn : born'.number ≤ born.number)
    (htoday : today.number ≤ today'.number) (hp : p' ≤ p) : born'.HasReached today' p' := by
  have hyears : (today.year : Int) - born.year ≤ today'.year - born'.year := by
    rw [number_le_iff] at hborn htoday
    unfold IsBefore at hborn htoday
    omega
  rcases hyears.lt_or_eq with hmore | hsame
  · have hlt : Place.of (today.year - born.year : Int) < .of (today'.year - born'.year : Int) :=
      Place.of_strictMono (Int.cast_lt.2 hmore)
    exact .inl ((hp.trans h.le).trans_lt hlt)
  · unfold HasReached
    rw [← hsame]
    rcases h with hlt | ⟨heq, hahead⟩
    · exact .inl (hp.trans_lt hlt)
    · rcases hp.lt_or_eq with hless | rfl
      · exact .inl (heq ▸ hless)
      · exact .inr ⟨heq, not_isAhead_of_le hborn htoday hsame.symm hahead⟩

end

end Calendar.Date

namespace Check
open Calendar

variable {value value' least least' : Value} {born born' : Date} {p p' : Place} {n : Int}

theorem not_isYoungerThan_iff_hasReached {target : Binary64} (hp : target.place? = some p)
    (born today : Date) :
    isYoungerThan born today target = false ↔ born.HasReached today p := by
  rw [← Bool.not_eq_true, isYoungerThan_iff hp, not_or, not_lt, not_and, Date.HasReached,
    le_iff_lt_or_eq]
  constructor
  · rintro ⟨hless | hsame, hahead⟩
    · exact .inl hless
    · exact .inr ⟨hsame, hahead hsame.symm⟩
  · rintro (hless | ⟨hsame, hahead⟩)
    · exact ⟨.inl hless, fun hsame => absurd hsame.symm hless.ne⟩
    · exact ⟨.inr hsame, fun _ => hahead⟩

theorem hasReached_rounded_iff {v : ℚ} {x : Binary64} (hv : RoundsTo n v x) (born today : Date) :
    born.HasReached today (.of v) ↔ born.HasReached today (.of n) := by
  have hborn := born.year_le
  have hborn' := born.year_pos
  have htoday := today.year_le
  have htoday' := today.year_pos
  have hle := hv.le_int_iff (n := today.year - born.year) (by omega) (by omega)
  have hge := hv.int_le_iff (n := today.year - born.year) (by omega) (by omega)
  have hlt : v < ((today.year - born.year : Int) : ℚ) ↔ n < today.year - born.year := by
    rw [← not_le, hge, not_le]
  have heq : v = ((today.year - born.year : Int) : ℚ) ↔ n = today.year - born.year := by
    rw [le_antisymm_iff, hle, hge, ← le_antisymm_iff]
  unfold Date.HasReached
  rw [Place.of_strictMono.lt_iff_lt, Place.of_strictMono.lt_iff_lt,
    Place.of_strictMono.injective.eq_iff, Place.of_strictMono.injective.eq_iff, Int.cast_lt,
    Int.cast_inj, hlt, heq]

theorem toNumber_tooLarge (h : overflow ≤ |(n : ℚ)|) :
    (Value.int n).toNumber = .error .integerTooLarge := by
  unfold Value.toNumber
  dsimp only
  rw [if_pos (isInfinite_ofInt_iff.2 h)]

theorem age_tooLarge (today : Date) (hborn : value.toDate = .ok (some born))
    (h : overflow ≤ |(n : ℚ)|) : age today value (.int n) = .error .integerTooLarge := by
  unfold age
  rw [hborn, ok_bind]
  dsimp only
  rw [toNumber_tooLarge h]
  rfl

theorem exists_toNumber_eq (hp : least.StandsFor p)
    (hsmall : ∀ n : Int, least = .int n → |(n : ℚ)| < overflow) :
    ∃ target, least.toNumber = .ok (some target) ∧ ∀ born today : Date,
      isYoungerThan born today target = false ↔ born.HasReached today p := by
  cases hp with
  | int n =>
    obtain ⟨v, hv⟩ := ofInt_roundsTo (hsmall n rfl)
    refine ⟨ofInt n, Value.toNumber_int hv, fun born today => ?_⟩
    rw [not_isYoungerThan_iff_hasReached hv.place, hasReached_rounded_iff hv]
  | read hread hplace =>
    exact ⟨_, hread, not_isYoungerThan_iff_hasReached hplace⟩

theorem age_eq_nil_iff (today : Date) (hborn : value.toDate = .ok (some born))
    (hp : least.StandsFor p) :
    age today value least = .ok [] ↔
      (∀ n : Int, least = .int n → |(n : ℚ)| < overflow) ∧ born.HasReached today p := by
  by_cases hsmall : ∀ n : Int, least = .int n → |(n : ℚ)| < overflow
  · obtain ⟨target, htarget, hreached⟩ := exists_toNumber_eq hp hsmall
    rw [age_eq today hborn htarget, and_iff_right hsmall, ← hreached]
    cases isYoungerThan born today target <;> simp
  · refine iff_of_false (fun hpasses => hsmall ?_) fun h => hsmall h.1
    rintro n rfl
    by_contra hlarge
    rw [age_tooLarge today hborn (not_lt.1 hlarge)] at hpasses
    cases hpasses

theorem lt_overflow_of_hasReached {today : Date} (hp : (Value.int n).StandsFor p)
    (h : born.HasReached today p) : (n : ℚ) < overflow := by
  cases hp with
  | int n =>
    have hyears : n ≤ today.year - born.year :=
      Int.cast_le.1 (Place.of_strictMono.le_iff_le.1 h.le)
    have hyear := today.year_le
    refine lt_overflow ?_
    exact_mod_cast (show n ≤ 2 ^ 53 by omega)
  | read hread _ =>
    by_contra hlarge
    rw [toNumber_tooLarge (le_abs.2 (.inl (not_lt.1 hlarge)))] at hread
    cases hread

/-- Whoever passes the check of an age passes it on every later day, whoever was born no later
passes it too, and so does everyone of whom no greater age is asked, unless the age is an integer
that lies too far below zero to be a binary number. -/
theorem age_monotone {today today' : Date} (hborn : value.toDate = .ok (some born))
    (hp : least.StandsFor p) (hpasses : age today value least = .ok [])
    (htoday : today.number ≤ today'.number) (hborn' : value'.toDate = .ok (some born'))
    (hearlier : born'.number ≤ born.number) (hp' : least'.StandsFor p') (hle : p' ≤ p) :
    (age today' value' least' = .ok [] ↔ ∀ n : Int, least' = .int n → -overflow < (n : ℚ)) ∧
      ∀ n : Int, least' = .int n → (n : ℚ) ≤ -overflow →
        age today' value' least' = .error .integerTooLarge := by
  obtain ⟨-, hreached⟩ := (age_eq_nil_iff today hborn hp).1 hpasses
  have hreached' := hreached.mono hearlier htoday hle
  refine ⟨?_, ?_⟩
  · rw [age_eq_nil_iff today' hborn' hp', and_iff_left hreached']
    refine forall₂_congr fun n hn => ?_
    subst hn
    rw [abs_lt, and_iff_left (lt_overflow_of_hasReached hp' hreached')]
  · rintro n rfl hlarge
    exact age_tooLarge today' hborn' (le_abs.2 (.inr (le_neg_of_le_neg hlarge)))

/-- Eighteen years are completed, so on a later day someone older is at least seventeen and a half.
-/
theorem age_monotone_birthday :
    ∃ born born' today today', Date.of? 2006 6 15 = some born ∧ Date.of? 2004 2 29 = some born' ∧
      Date.of? 2024 6 15 = some today ∧ Date.of? 2025 1 1 = some today' ∧
      age today (.text "2006-06-15") (.int 18) = .ok [] ∧
      age today' (.text "02/29/2004") (.float (.finite false 4925812092436480 (-48))) = .ok [] := by
  obtain ⟨born, hdate⟩ : ∃ born, Date.of? 2006 6 15 = some born := ⟨_, rfl⟩
  obtain ⟨born', hdate'⟩ : ∃ born, Date.of? 2004 2 29 = some born := ⟨_, rfl⟩
  obtain ⟨today, hday⟩ : ∃ today, Date.of? 2024 6 15 = some today := ⟨_, rfl⟩
  obtain ⟨today', hday'⟩ : ∃ today, Date.of? 2025 1 1 = some today := ⟨_, rfl⟩
  have hborn : (Value.text "2006-06-15").toDate = .ok (some born) := by
    rw [← hdate]
    rfl
  have hborn' : (Value.text "02/29/2004").toDate = .ok (some born') := by
    rw [← hdate']
    rfl
  have hpasses : age today (.text "2006-06-15") (.int 18) = .ok [] := by
    cases hday
    rfl
  have hlater : today.number ≤ today'.number := by
    cases hday
    cases hday'
    decide
  have hearlier : born'.number ≤ born.number := by
    cases hdate
    cases hdate'
    decide
  have hread : (Value.float (.finite false 4925812092436480 (-48))).StandsFor
      (.of (35 / 2 : ℚ)) := by
    refine .read rfl ?_
    norm_num [place?, withSign]
  have hless : Place.of (35 / 2 : ℚ) ≤ .of (18 : Int) :=
    Place.of_strictMono.le_iff_le.2 (by norm_num)
  have hmonotone := age_monotone hborn (.int 18) hpasses hlater hborn' hearlier hread hless
  exact ⟨born, born', today, today', hdate, hdate', hday, hday', hpasses,
    hmonotone.1.2 (by simp)⟩

end Check

end Intake
