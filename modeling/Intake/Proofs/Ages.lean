import Intake.Proofs.Numbers

/-! Ages in whole years. A least age that is a whole number is met exactly by those who have
completed as many years; any other one is also met by those whose birthday in this year would
complete enough of them and is yet to come. -/

namespace Intake
open Number Number.Binary64

namespace Calendar.Date

def IsAhead (born today : Date) : Prop :=
  today.month < born.month ∨ today.month = born.month ∧ today.day < born.day

instance (born today : Date) : Decidable (born.IsAhead today) :=
  inferInstanceAs (Decidable (_ ∨ _))

/-- The difference of the years, less one while the birthday is ahead. -/
def completedYears (born today : Date) : Int :=
  today.year - born.year - if born.IsAhead today then 1 else 0

theorem completedYears_bounds (born today : Date) :
    -10000 < born.completedYears today ∧ born.completedYears today < 10000 := by
  have hborn := born.year_pos
  have hborn' := born.year_le
  have htoday := today.year_pos
  have htoday' := today.year_le
  unfold completedYears
  split <;> omega

theorem isAhead_leapDay {born today : Date} (hmonth : born.month = 2) (hday : born.day = 29)
    (hleap : isLeap today.year = false) : born.IsAhead today ↔ today.month < 3 := by
  have hlast := today.day_le
  unfold IsAhead
  rw [hmonth, hday]
  constructor
  · rintro (hlt | ⟨heq, -⟩) <;> omega
  · intro hlt
    rcases Nat.lt_or_ge today.month 2 with hjanuary | hfebruary
    · exact .inl hjanuary
    · have hmonth' : today.month = 2 := by omega
      have hdays : daysIn today.year 2 = 28 := by
        simp [daysIn, hleap]
      rw [hmonth', hdays] at hlast
      exact .inr ⟨hmonth', by omega⟩

end Calendar.Date

namespace Check

theorem comesEarlierInYear_iff {born today : Calendar.Date} :
    comesEarlierInYear today born = true ↔ born.IsAhead today := by
  unfold comesEarlierInYear Calendar.Date.IsAhead
  simp

theorem isYoungerThan_iff {born today : Calendar.Date} {target : Binary64} {p : Place}
    (hp : target.place? = some p) :
    isYoungerThan born today target = true ↔
      Place.of (today.year - born.year : Int) < p ∨
        Place.of (today.year - born.year : Int) = p ∧ born.IsAhead today := by
  have hyears : (Numeric.int ((today.year : Int) - born.year)).place? =
      some (.of (today.year - born.year : Int)) := rfl
  have htarget : (Numeric.float target).place? = some p := hp
  unfold isYoungerThan
  rw [Bool.or_eq_true, Bool.and_eq_true, Numeric.lt_iff hyears htarget,
    Numeric.eqv_iff hyears htarget, comesEarlierInYear_iff]

/-- Who is not younger than an age has completed as many years, or is ahead of the birthday that
completes the next year and is not younger than a part of it. -/
theorem not_isYoungerThan_iff {born today : Calendar.Date} {target : Binary64} {p : Place}
    (hp : target.place? = some p) :
    isYoungerThan born today target = false ↔
      p ≤ .of (born.completedYears today) ∨
        born.IsAhead today ∧ p < .of (born.completedYears today + 1 : Int) := by
  rw [← Bool.not_eq_true, isYoungerThan_iff hp, not_or, not_lt, not_and]
  by_cases hahead : born.IsAhead today
  · have hyears : born.completedYears today + 1 = today.year - born.year := by
      unfold Calendar.Date.completedYears
      rw [if_pos hahead]
      omega
    have hnext : Place.of (born.completedYears today) < .of (today.year - born.year : Int) := by
      rw [← hyears]
      exact Place.of_strictMono (Int.cast_lt.2 (Int.lt_succ _))
    rw [hyears]
    constructor
    · rintro ⟨hle, hne⟩
      exact .inr ⟨hahead, lt_of_le_of_ne hle fun heq => hne heq.symm hahead⟩
    · rintro (hle | ⟨-, hlt⟩)
      · have hlt := hle.trans_lt hnext
        exact ⟨hlt.le, fun heq => absurd heq.symm hlt.ne⟩
      · exact ⟨hlt.le, fun heq => absurd heq.symm hlt.ne⟩
  · have hyears : born.completedYears today = today.year - born.year := by
      unfold Calendar.Date.completedYears
      rw [if_neg hahead]
      omega
    rw [hyears]
    simp [hahead]

theorem le_or_lt_succ_iff {p : Place} {k c : Int} {ahead : Prop}
    (hle : p ≤ .of c ↔ k ≤ c) (hlt : p < .of (c + 1 : Int) ↔ k < c + 1) :
    p ≤ .of c ∨ ahead ∧ p < .of (c + 1 : Int) ↔ k ≤ c := by
  rw [hle, hlt, Int.lt_add_one_iff]
  exact or_iff_left_of_imp And.right

theorem le_or_lt_succ_of_int (k c : Int) (ahead : Prop) :
    Place.of k ≤ .of c ∨ ahead ∧ Place.of k < .of (c + 1 : Int) ↔ k ≤ c := by
  apply le_or_lt_succ_iff
  · rw [Place.of_strictMono.le_iff_le, Int.cast_le]
  · rw [Place.of_strictMono.lt_iff_lt, Int.cast_lt]

theorem le_or_lt_succ_of_rounded {k c : Int} {v : ℚ} {x : Binary64} (h : RoundsTo k v x)
    (hleast : -10000 < c) (hgreatest : c < 10000) (ahead : Prop) :
    Place.of v ≤ .of c ∨ ahead ∧ Place.of v < .of (c + 1 : Int) ↔ k ≤ c := by
  apply le_or_lt_succ_iff
  · rw [Place.of_strictMono.le_iff_le]
    exact h.le_int_iff (by omega) (by omega)
  · rw [Place.of_strictMono.lt_iff_lt, ← not_le, h.int_le_iff (by omega) (by omega), not_le]

theorem age_eq {value least : Value} {born : Calendar.Date} {target : Binary64}
    (today : Calendar.Date) (hborn : value.toDate = .ok (some born))
    (htarget : least.toNumber = .ok (some target)) :
    age today value least = .ok (if isYoungerThan born today target then
      [s!"Input \"{value.display}\" does not meet the age requirement of: " ++
        s!"\"{least.display}\""] else []) := by
  have hvalue := Value.written_eq (isWritable_of_toDate hborn)
  have hleast := Value.written_eq (Value.isWritable_of_toNumber htarget)
  unfold age
  rw [hborn, htarget, hvalue, hleast]
  exact messageIf_ok _ _

/-- Someone passes the check of an age who has completed the years asked for. Where these are not a
whole number, so does someone who will have completed them with the birthday still to come in this
year. Whole numbers are decided exactly, and a leap day counts as the first of March in years
without one. -/
theorem age_passes_iff {value least key : Value} {born : Calendar.Date} (today : Calendar.Date)
    (hborn : value.toDate = .ok (some born))
    (haccepted : Definition.minAgeFailures key (.plain least) = .ok []) :
    ∃ target p messages, least.toNumber = .ok (some target) ∧ target.place? = some p ∧
      age today value least = .ok messages ∧
      (messages = [] ↔ p ≤ .of (born.completedYears today) ∨
        born.IsAhead today ∧ p < .of (born.completedYears today + 1 : Int)) ∧
      (∀ k : Int, p = .of k ∨ least = .int k → (messages = [] ↔ k ≤ born.completedYears today)) ∧
      (born.month = 2 → born.day = 29 → Calendar.isLeap today.year = false →
        born.completedYears today = today.year - born.year - if today.month < 3 then 1 else 0) := by
  obtain ⟨_, target, hplain, htarget⟩ := (@Definition.minAgeFailures_eq_nil_iff .none key
    (.plain least) [] haccepted).1 rfl
  cases hplain
  obtain ⟨p, hp⟩ := Value.exists_place_of_toNumber htarget
  obtain ⟨messages, hmessages⟩ : ∃ messages, age today value least = .ok messages :=
    ⟨_, age_eq today hborn htarget⟩
  have hpasses : messages = [] ↔ p ≤ .of (born.completedYears today) ∨
      born.IsAhead today ∧ p < .of (born.completedYears today + 1 : Int) := by
    rw [age_eq today hborn htarget] at hmessages
    rw [← Except.ok.inj hmessages, ← not_isYoungerThan_iff hp]
    cases isYoungerThan born today target <;> simp
  refine ⟨target, p, messages, htarget, hp, hmessages, hpasses, fun k hk => ?_,
    fun hmonth hday hleap => ?_⟩
  · rw [hpasses]
    rcases hk with rfl | rfl
    · exact le_or_lt_succ_of_int k _ _
    · obtain ⟨v, hv, htarget'⟩ := Value.exists_roundsTo_of_toNumber htarget
      have hplace : p = .of v := by
        rw [Option.some.inj htarget', hv.place] at hp
        exact (Option.some.inj hp).symm
      obtain ⟨hleast, hgreatest⟩ := born.completedYears_bounds today
      rw [hplace]
      exact le_or_lt_succ_of_rounded hv hleast hgreatest _
  · unfold Calendar.Date.completedYears
    simp only [Calendar.Date.isAhead_leapDay hmonth hday hleap]

/-- Seventeen years are completed, and seventeen and a half are asked for. -/
theorem age_passes_beforeBirthday :
    ∃ born today, Calendar.Date.of? 2006 12 31 = some born ∧
      Calendar.Date.of? 2024 6 15 = some today ∧ born.completedYears today = 17 ∧
      (ofRatio false 35 2).place? = some (.of (35 / 2)) ∧
      age today (.text "2006-12-31") (.float (ofRatio false 35 2)) = .ok [] := by
  obtain ⟨born, hdate⟩ : ∃ born, Calendar.Date.of? 2006 12 31 = some born := ⟨_, rfl⟩
  obtain ⟨today, htoday⟩ : ∃ today, Calendar.Date.of? 2024 6 15 = some today := ⟨_, rfl⟩
  have hborn : (Value.text "2006-12-31").toDate = .ok (some born) := by
    rw [← hdate]
    rfl
  have haccepted : Definition.minAgeFailures RuleKind.minAge.key
      (.plain (.float (ofRatio false 35 2))) = .ok [] := rfl
  have hcompleted : born.completedYears today = 17 := by
    cases hdate
    cases htoday
    decide
  have hahead : born.IsAhead today := by
    cases hdate
    cases htoday
    decide
  have hplace : (ofRatio false 35 2).place? = some (.of (35 / 2)) := by
    have hrange : ((35 : Nat) : ℚ) / (2 : Nat) < overflow := lt_overflow (by norm_num)
    have hhalf : IsRepresentable ((35 : Nat) / (2 : Nat)) :=
      ⟨35, -1, by norm_num, by decide, by decide, by norm_num⟩
    obtain ⟨v, hv⟩ := ofRatio_roundsTo false 35 two_pos hrange
    rw [hv.place, hv.eq_of_representable hhalf]
    norm_num [withSign]
  obtain ⟨target, p, messages, htarget, hp, hage, hpasses, -⟩ :=
    age_passes_iff today hborn haccepted
  cases htarget
  rw [hplace] at hp
  cases hp
  have hpart : Place.of (35 / 2) < .of (born.completedYears today + 1 : Int) := by
    rw [hcompleted, Place.of_strictMono.lt_iff_lt]
    norm_num
  rw [hpasses.2 (.inr ⟨hahead, hpart⟩)] at hage
  exact ⟨born, today, hdate, htoday, hcompleted, hplace, hage⟩

end Check

end Intake
