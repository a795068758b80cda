import Intake.Calendar.Date
import Mathlib.Order.Monotone.Basic

/-! Day numbers. They count the days of the calendar in order and without gaps, and the date of a
day is found again from its number; numbers before the first day and after the last one belong to no
date. -/

namespace Intake.Calendar

def yearLength (year : Nat) : Nat := if isLeap year then 366 else 365

@[simp] theorem isLeap_iff {year : Nat} :
    isLeap year = true ↔ year % 4 = 0 ∧ (year % 100 ≠ 0 ∨ year % 400 = 0) := by
  simp [isLeap]

theorem yearLength_cases (year : Nat) :
    isLeap year = true ∧ yearLength year = 366 ∨ isLeap year = false ∧ yearLength year = 365 := by
  unfold yearLength
  cases isLeap year <;> simp

namespace Date

theorem daysBeforeYear_succ {year : Nat} (h : 1 ≤ year) :
    daysBeforeYear (year + 1) = daysBeforeYear year + yearLength year := by
  obtain ⟨n, rfl⟩ := Nat.exists_eq_add_of_le' h
  have hcenturies : n / 100 ≤ n / 4 := Nat.div_le_div_left (by decide) (by decide)
  have hcentury : (n + 1) % 100 = 0 → (n + 1) % 4 = 0 := by omega
  have hfour : (n + 1) % 400 = 0 → (n + 1) % 100 = 0 := by omega
  unfold daysBeforeYear yearLength
  simp only [Nat.add_sub_cancel, Nat.succ_div, Nat.dvd_iff_mod_eq_zero, isLeap_iff]
  generalize n / 4 = a, n / 100 = b, n / 400 = c at *
  generalize (n + 1) % 4 = r, (n + 1) % 100 = s, (n + 1) % 400 = t at *
  split_ifs <;> omega

theorem daysBeforeYear_le {a b : Nat} (ha : 1 ≤ a) (hab : a ≤ b) :
    daysBeforeYear a ≤ daysBeforeYear b := by
  induction b, hab using Nat.le_induction with
  | base => exact le_refl _
  | succ b hab ih =>
    rw [daysBeforeYear_succ (ha.trans hab)]
    exact ih.trans (Nat.le_add_right _ _)

theorem daysBeforeMonth_succ (year : Nat) {month : Nat} (h : 1 ≤ month) :
    daysBeforeMonth year (month + 1) = daysBeforeMonth year month + daysIn year month := by
  obtain ⟨m, rfl⟩ := Nat.exists_eq_add_of_le' h
  rfl

theorem daysBeforeMonth_mono (year : Nat) : Monotone (daysBeforeMonth year) := by
  apply monotone_nat_of_le_succ
  intro month
  cases month with
  | zero => exact le_refl _
  | succ month =>
    rw [daysBeforeMonth_succ year (Nat.le_add_left 1 month)]
    exact Nat.le_add_right _ _

theorem daysBeforeMonth_thirteen (year : Nat) : daysBeforeMonth year 13 = yearLength year := by
  rcases yearLength_cases year with ⟨hleap, hlength⟩ | ⟨hleap, hlength⟩ <;>
    simp [daysBeforeMonth, daysIn, hleap, hlength]

theorem daysBeforeMonth_add_le (d : Date) {month : Nat} (h : d.month < month) :
    daysBeforeMonth d.year d.month + d.day ≤ daysBeforeMonth d.year month := by
  have hnext := daysBeforeMonth_mono d.year h
  rw [Nat.succ_eq_add_one, daysBeforeMonth_succ d.year d.month_pos] at hnext
  have hday := d.day_le
  omega

theorem number_le_of_year_lt (d : Date) {year : Nat} (h : d.year < year) :
    d.number ≤ daysBeforeYear year := by
  have hyear := daysBeforeYear_le (Nat.le_add_left 1 d.year) h
  have hday := d.daysBeforeMonth_add_le (Nat.lt_succ_of_le d.month_le)
  rw [daysBeforeYear_succ d.year_pos] at hyear
  rw [daysBeforeMonth_thirteen] at hday
  unfold number
  omega

theorem daysBeforeYear_lt_number (d : Date) : daysBeforeYear d.year < d.number := by
  have hday := d.day_pos
  unfold number
  omega

theorem number_pos (d : Date) : 1 ≤ d.number := Nat.zero_lt_of_lt d.daysBeforeYear_lt_number

theorem number_le (d : Date) : d.number ≤ 3652059 :=
  d.number_le_of_year_lt (Nat.lt_succ_of_le d.year_le)

def IsBefore (a b : Date) : Prop :=
  a.year < b.year ∨ a.year = b.year ∧
    (a.month < b.month ∨ a.month = b.month ∧ a.day < b.day)

theorem isBefore_or (a b : Date) : a.IsBefore b ∨ a = b ∨ b.IsBefore a := by
  unfold IsBefore
  rcases lt_trichotomy a.year b.year with hyear | hyear | hyear
  · exact .inl (.inl hyear)
  · rcases lt_trichotomy a.month b.month with hmonth | hmonth | hmonth
    · exact .inl (.inr ⟨hyear, .inl hmonth⟩)
    · rcases lt_trichotomy a.day b.day with hday | hday | hday
      · exact .inl (.inr ⟨hyear, .inr ⟨hmonth, hday⟩⟩)
      · refine .inr (.inl ?_)
        cases a
        cases b
        simp_all
      · exact .inr (.inr (.inr ⟨hyear.symm, .inr ⟨hmonth.symm, hday⟩⟩))
    · exact .inr (.inr (.inr ⟨hyear.symm, .inl hmonth⟩))
  · exact .inr (.inr (.inl hyear))

theorem IsBefore.number_lt {a b : Date} (h : a.IsBefore b) : a.number < b.number := by
  rcases h with hyear | ⟨hyear, hmonth | ⟨hmonth, hday⟩⟩
  · exact (a.number_le_of_year_lt hyear).trans_lt b.daysBeforeYear_lt_number
  · have hle := a.daysBeforeMonth_add_le hmonth
    have hpos := b.day_pos
    unfold number
    rw [hyear] at hle ⊢
    omega
  · unfold number
    rw [hyear, hmonth]
    omega

theorem number_lt_iff {a b : Date} : a.number < b.number ↔ a.IsBefore b := by
  refine ⟨fun hlt => ?_, IsBefore.number_lt⟩
  rcases isBefore_or a b with h | rfl | h
  · exact h
  · exact absurd hlt (lt_irrefl _)
  · exact absurd hlt h.number_lt.asymm

theorem number_injective : Function.Injective number := by
  intro a b h
  rcases isBefore_or a b with hlt | heq | hgt
  · exact absurd h hlt.number_lt.ne
  · exact heq
  · exact absurd h hgt.number_lt.ne'

theorem cappedQuotient_spec {n d : Nat} (hd : 0 < d) (hn : n ≤ 4 * d) :
    ∃ q r, min (n / d) 3 = q ∧ n - q * d = r ∧ n = q * d + r ∧ q ≤ 3 ∧ r ≤ d ∧ (q < 3 → r < d) := by
  have hsplit := Nat.div_add_mod' n d
  have hlt := Nat.mod_lt n hd
  rcases Nat.lt_or_ge (n / d) 4 with hfew | hmany
  · refine ⟨n / d, n % d, by omega, by omega, hsplit.symm, by omega, hlt.le, fun _ => hlt⟩
  · have hfour : n = 4 * d := le_antisymm hn ((Nat.le_div_iff_mul_le hd).1 hmany)
    subst hfour
    exact ⟨3, d, by omega, by omega, by omega, le_refl _, le_refl _, fun h => absurd h (by decide)⟩

theorem yearDay_spec {number : Nat} (h : 1 ≤ number) :
    1 ≤ (yearDay number).1 ∧
      daysBeforeYear (yearDay number).1 + (yearDay number).2 + 1 = number ∧
      (yearDay number).2 < yearLength (yearDay number).1 := by
  obtain ⟨n, rfl⟩ := Nat.exists_eq_add_of_le' h
  unfold yearDay
  dsimp only
  rw [Nat.add_sub_cancel]
  have hn := Nat.div_add_mod n 146097
  have hdays := Nat.mod_lt n (show 0 < 146097 by decide)
  generalize n / 146097 = cycles, n % 146097 = days at *
  obtain ⟨c, rest, hc, hrest, hcentury, hc3, hlong, hshort⟩ :=
    cappedQuotient_spec (n := days) (d := 36524) (by decide) (by omega)
  rw [hc, hrest]
  have hrest' := Nat.div_add_mod rest 1461
  have hyears := Nat.mod_lt rest (show 0 < 1461 by decide)
  generalize rest / 1461 = fours, rest % 1461 = years at *
  obtain ⟨s, day, hs, hday, hyear, hs3, hlongYear, hshortYear⟩ :=
    cappedQuotient_spec (n := years) (d := 365) (by decide) (by omega)
  rw [hs, hday]
  -- the quotients and remainders by which the years before and the leap years are told
  have hfours : fours ≤ 24 := by omega
  obtain ⟨y, hy⟩ : ∃ y, y = cycles * 400 + c * 100 + fours * 4 + s := ⟨_, rfl⟩
  have hdiv : y / 4 = cycles * 100 + c * 25 + fours ∧ y / 100 = cycles * 4 + c ∧
      y / 400 = cycles := by omega
  have hmod : (y + 1) % 4 = (s + 1) % 4 ∧ (y + 1) % 100 = (fours * 4 + s + 1) % 100 ∧
      (y + 1) % 400 = (c * 100 + fours * 4 + s + 1) % 400 := by omega
  rw [← hy]
  refine ⟨by omega, ?_, ?_⟩
  · unfold daysBeforeYear
    simp only [Nat.add_sub_cancel, hdiv]
    omega
  · unfold yearLength
    simp only [isLeap_iff, hmod]
    split_ifs <;> omega

theorem monthDay_spec {year month fuel n : Nat} (hmonth : 1 ≤ month)
    (h : daysBeforeMonth year month + n < daysBeforeMonth year (month + fuel + 1)) :
    1 ≤ (monthDay year month fuel n).1 ∧ (monthDay year month fuel n).1 ≤ month + fuel ∧
      1 ≤ (monthDay year month fuel n).2 ∧
      (monthDay year month fuel n).2 ≤ daysIn year (monthDay year month fuel n).1 ∧
      daysBeforeMonth year (monthDay year month fuel n).1 + (monthDay year month fuel n).2 =
        daysBeforeMonth year month + n + 1 := by
  have hnext := daysBeforeMonth_succ year hmonth
  induction fuel generalizing month n with
  | zero =>
    rw [Nat.add_zero, hnext] at h
    have hday : n + 1 ≤ daysIn year month := by omega
    exact ⟨hmonth, le_refl _, Nat.le_add_left 1 n, hday, rfl⟩
  | succ fuel ih =>
    unfold monthDay
    split_ifs with hlt
    · exact ⟨hmonth, Nat.le_add_right _ _, Nat.le_add_left 1 n, hlt, rfl⟩
    · have hsame : month + 1 + fuel + 1 = month + (fuel + 1) + 1 := by omega
      have hlater : daysBeforeMonth year (month + 1) + (n - daysIn year month) <
          daysBeforeMonth year (month + 1 + fuel + 1) := by
        rw [hsame]
        omega
      obtain ⟨hpos, hle, hday⟩ :=
        ih (Nat.le_add_left 1 month) hlater (daysBeforeMonth_succ year (Nat.le_add_left 1 month))
      exact ⟨hpos, by omega, by omega⟩

@[simp] theorem of?_eq_some_iff {year month day : Nat} {d : Date} :
    of? year month day = some d ↔ d.year = year ∧ d.month = month ∧ d.day = day := by
  constructor
  · intro h
    unfold of? make at h
    split_ifs at h <;> cases h
    exact ⟨rfl, rfl, rfl⟩
  · rintro ⟨rfl, rfl, rfl⟩
    exact of?_self d

theorem exists_parts_of_number {n : Nat} (hpos : 1 ≤ n) :
    ∃ year month day, ofNumber? n = of? year month day ∧ 1 ≤ year ∧ 1 ≤ month ∧ month ≤ 12 ∧
      1 ≤ day ∧ day ≤ daysIn year month ∧
      daysBeforeYear year + daysBeforeMonth year month + day = n := by
  obtain ⟨hyear, hbefore, hwithin⟩ := yearDay_spec hpos
  obtain ⟨year, m, hparts⟩ : ∃ year m, yearDay n = (year, m) := ⟨_, _, rfl⟩
  rw [hparts] at hyear hbefore hwithin
  have hdays : daysBeforeMonth year 1 + m < daysBeforeMonth year (1 + 11 + 1) := by
    rw [daysBeforeMonth_thirteen]
    exact (Nat.zero_add m).symm ▸ hwithin
  obtain ⟨hmonth, hmonthLe, hday, hdayLe, hsum⟩ := monthDay_spec (le_refl 1) hdays
  refine ⟨year, (monthDay year 1 11 m).1, (monthDay year 1 11 m).2, ?_, hyear, hmonth, hmonthLe,
    hday, hdayLe, ?_⟩
  · unfold ofNumber?
    rw [if_neg (by simpa using Nat.pos_iff_ne_zero.1 hpos), hparts]
  · have hfirst : daysBeforeMonth year 1 = 0 := rfl
    dsimp only at hbefore
    omega

theorem exists_number_eq {n : Nat} (hpos : 1 ≤ n) (hle : n ≤ 3652059) :
    ∃ d, ofNumber? n = some d ∧ d.number = n := by
  obtain ⟨year, month, day, heq, hyear, hmonth, hmonthLe, hday, hdayLe, hsum⟩ :=
    exists_parts_of_number hpos
  have hyearLe : year ≤ 9999 := by
    refine Nat.le_of_not_lt fun hlate => ?_
    have hmany : daysBeforeYear 10000 ≤ daysBeforeYear year := daysBeforeYear_le (by decide) hlate
    have hlast : daysBeforeYear 10000 = 3652059 := rfl
    omega
  refine ⟨⟨year, month, day, hyear, hyearLe, hmonth, hmonthLe, hday, hdayLe⟩, ?_, hsum⟩
  rw [heq, of?_eq_some_iff]
  exact ⟨rfl, rfl, rfl⟩

@[simp]
theorem ofNumber?_eq_some_iff {n : Nat} {d : Date} : ofNumber? n = some d ↔ d.number = n := by
  constructor
  · intro h
    rcases Nat.eq_zero_or_pos n with rfl | hpos
    · cases h
    obtain ⟨year, month, day, heq, -, -, -, -, -, hsum⟩ := exists_parts_of_number hpos
    obtain ⟨rfl, rfl, rfl⟩ := of?_eq_some_iff.1 (heq ▸ h)
    exact hsum
  · rintro rfl
    obtain ⟨d', heq, hnumber⟩ := exists_number_eq d.number_pos d.number_le
    rw [heq, number_injective hnumber]

@[simp] theorem ofEpochDay?_eq_some_iff {days : Int} {d : Date} :
    ofEpochDay? days = some d ↔ (d.number : Int) - epochNumber = days := by
  have hpos := d.number_pos
  unfold ofEpochDay?
  dsimp only
  split_ifs with h
  · rw [ofNumber?_eq_some_iff]
    omega
  · refine iff_of_false (fun h => nomatch h) ?_
    omega

theorem epochNumber_eq {d : Date} (h : of? 1970 1 1 = some d) : d.number = epochNumber := by
  obtain ⟨hyear, hmonth, hday⟩ := of?_eq_some_iff.1 h
  unfold number
  rw [hyear, hmonth, hday]
  rfl

end Date

end Intake.Calendar
