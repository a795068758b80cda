import Intake.Number.Shortest
import Intake.Proofs.Neighbours
import Mathlib.Tactic.LinearCombination

/-! The shortest digits of a number read back as that number. Of the decimals with a number of
digits those next to the number are tried; with seventeen digits one of them always rounds to it. -/

namespace Intake.Number
open Binary64

namespace RoundingInterval
variable {m : Nat} {e : Int}

theorem of_spec (hpos : 0 < m) : 0 < (of m e).den ∧
    ((of m e).low : ℚ) = (m - halfGapBelow m e) * 2 ^ e * (of m e).den ∧
    ((of m e).value : ℚ) = m * 2 ^ e * (of m e).den ∧
    ((of m e).high : ℚ) = (m + 1 / 2) * 2 ^ e * (of m e).den ∧
    (of m e).closed = (m % 2 == 0) := by
  obtain ⟨unit, den, hden, hunit, hof⟩ : ∃ unit den : Nat, 0 < den ∧ (unit : ℚ) * 4 = 2 ^ e * den ∧
      of m e = ⟨(4 * m - if m == Nat.pow 2 52 && minExponent < e then 1 else 2) * unit,
        4 * m * unit,
        (4 * m + 2) * unit, den, m % 2 == 0⟩ := by
    rcases le_or_gt 0 e with he | he
    · refine ⟨Nat.pow 2 e.toNat, 4, by decide, ?_, ?_⟩
      · rw [cast_pow_toNat he, Nat.cast_ofNat]
      · simp only [of, he, if_true]
    · refine ⟨1, 4 * Nat.pow 2 (-e).toNat, Nat.mul_pos (by decide) (Nat.pow_pos two_pos), ?_, ?_⟩
      · rw [Nat.cast_mul, cast_pow_toNat (by omega), zpow_neg, Nat.cast_one, Nat.cast_ofNat]
        field_simp
      · simp only [of, not_le.2 he, if_false]
  have hgap : ((4 * m - if m == Nat.pow 2 52 && minExponent < e then 1 else 2 : Nat) : ℚ) =
      (m - halfGapBelow m e) * 4 := by
    unfold halfGapBelow
    simp only [Bool.and_eq_true, beq_iff_eq, decide_eq_true_eq]
    split_ifs
    · rw [Nat.cast_sub (by omega)]
      push_cast
      ring
    · rw [Nat.cast_sub (by omega)]
      push_cast
      ring
  rw [hof]
  refine ⟨hden, ?_, ?_, ?_, rfl⟩
  · rw [Nat.cast_mul, hgap]
    linear_combination (m - halfGapBelow m e) * hunit
  · push_cast
    linear_combination (m : ℚ) * hunit
  · push_cast
    linear_combination ((m : ℚ) + 1 / 2) * hunit

theorem admits_iff (hpos : 0 < m) {up down : Nat} (hdown : 0 < down) (c : Nat) :
    (of m e).admits up down c = true ↔ IsNear m e (c * (up / down)) := by
  obtain ⟨hden, hlow, -, hhigh, hclosed⟩ := of_spec (e := e) hpos
  have hscale : (0 : ℚ) < (of m e).den * down := by positivity
  have hgrid : ((c * (of m e).den * up : Nat) : ℚ) =
      c * (up / down) * ((of m e).den * down) := by
    push_cast
    field_simp
  have hlow' : (((of m e).low * down : Nat) : ℚ) =
      (m - halfGapBelow m e) * 2 ^ e * ((of m e).den * down) := by
    rw [Nat.cast_mul, hlow]
    ring
  have hhigh' : (((of m e).high * down : Nat) : ℚ) =
      (m + 1 / 2) * 2 ^ e * ((of m e).den * down) := by
    rw [Nat.cast_mul, hhigh]
    ring
  unfold admits
  simp only [hclosed]
  by_cases heven : m % 2 = 0
  · have hfrom : (of m e).low * down ≤ c * (of m e).den * up ↔
        (m - halfGapBelow m e) * 2 ^ e ≤ (c : ℚ) * (up / down) := by
      rw [← Nat.cast_le (α := ℚ), hlow', hgrid, mul_le_mul_iff_left₀ hscale]
    have hto : c * (of m e).den * up ≤ (of m e).high * down ↔
        (c : ℚ) * (up / down) ≤ (m + 1 / 2) * 2 ^ e := by
      rw [← Nat.cast_le (α := ℚ), hhigh', hgrid, mul_le_mul_iff_left₀ hscale]
    simp only [heven, BEq.rfl, if_true, Bool.and_eq_true, decide_eq_true_eq, hfrom, hto]
    exact ⟨fun h => ⟨h.1, h.2, fun _ => heven⟩, fun h => ⟨h.low, h.high⟩⟩
  · have hfrom : (of m e).low * down < c * (of m e).den * up ↔
        (m - halfGapBelow m e) * 2 ^ e < (c : ℚ) * (up / down) := by
      rw [← Nat.cast_lt (α := ℚ), hlow', hgrid, mul_lt_mul_iff_left₀ hscale]
    have hto : c * (of m e).den * up < (of m e).high * down ↔
        (c : ℚ) * (up / down) < (m + 1 / 2) * 2 ^ e := by
      rw [← Nat.cast_lt (α := ℚ), hhigh', hgrid, mul_lt_mul_iff_left₀ hscale]
    simp only [beq_false_of_ne heven, Bool.false_eq_true, if_false, Bool.and_eq_true,
      decide_eq_true_eq, hfrom, hto]
    constructor
    · rintro ⟨hl, hh⟩
      exact ⟨hl.le, hh.le, fun hends => absurd hends (not_or.2 ⟨hl.ne', hh.ne⟩)⟩
    · intro h
      exact ⟨lt_of_le_of_ne h.low fun heq => heven (h.even (.inl heq.symm)),
        lt_of_le_of_ne h.high fun heq => heven (h.even (.inr heq))⟩

end RoundingInterval

theorem ten_zpow_pos (p : Int) : (0 : ℚ) < 10 ^ p := zpow_pos (by norm_num) p

theorem cast_ten_pow {p : Int} (h : 0 ≤ p) : ((Nat.pow 10 p.toNat : Nat) : ℚ) = 10 ^ p := by
  have hcast : ((Nat.pow 10 p.toNat : Nat) : ℚ) = 10 ^ p.toNat := Nat.cast_pow 10 p.toNat
  rw [hcast, ← zpow_natCast, Int.toNat_of_nonneg h]

theorem unit_spec (p : Int) : 0 < (if 0 ≤ p then 1 else Nat.pow 10 (-p).toNat) ∧
    ((if 0 ≤ p then Nat.pow 10 p.toNat else 1 : Nat) : ℚ) /
      (if 0 ≤ p then 1 else Nat.pow 10 (-p).toNat : Nat) = 10 ^ p := by
  rcases le_or_gt 0 p with h | h
  · rw [if_pos h, if_pos h, cast_ten_pow h, Nat.cast_one, div_one]
    exact ⟨one_pos, rfl⟩
  · rw [if_neg (not_le.2 h), if_neg (not_le.2 h), cast_ten_pow (by omega), zpow_neg, Nat.cast_one,
      one_div, inv_inv]
    exact ⟨Nat.pow_pos (by decide), rfl⟩

/-- A positive rational number has its point at `p`: it is `0.d₁d₂… * 10 ^ p` where `d₁` is not
zero. -/
structure HasPoint (q : ℚ) (p : Int) : Prop where
  low : 10 ^ (p - 1) ≤ q
  high : q < 10 ^ p

theorem digitCount_bounds {n : Nat} (h : 0 < n) :
    10 ^ (digitCount n - 1) ≤ n ∧ n < 10 ^ digitCount n := by
  have hpos : 0 < digitCount n := Nat.length_toDigits_pos
  refine ⟨?_, (Nat.length_toDigits_le_iff (by decide) hpos).1 (le_refl _)⟩
  rcases Nat.eq_zero_or_pos (digitCount n - 1) with hone | hmore
  · rw [hone]
    exact h
  · by_contra! hlt
    have hfewer : digitCount n ≤ digitCount n - 1 :=
      (Nat.length_toDigits_le_iff (by decide) hmore).2 hlt
    omega

theorem zerosAfterPoint_bounds {num den fuel : Nat} (hlt : num < den) (h : den ≤ num * 10 ^ fuel) :
    num * 10 ^ zerosAfterPoint num den fuel < den ∧
      den ≤ num * 10 ^ (zerosAfterPoint num den fuel + 1) := by
  induction fuel generalizing num with
  | zero =>
    rw [pow_zero, mul_one] at h
    omega
  | succ fuel ih =>
    unfold zerosAfterPoint
    split_ifs with hten
    · rw [pow_zero, mul_one, zero_add, pow_one]
      exact ⟨hlt, hten⟩
    · have hrest : den ≤ num * 10 * 10 ^ fuel := by
        rwa [pow_succ', ← mul_assoc] at h
      obtain ⟨hlow, hhigh⟩ := ih (not_le.1 hten) hrest
      rw [pow_succ', ← mul_assoc, pow_succ' 10 (_ + 1), ← mul_assoc]
      exact ⟨hlow, hhigh⟩

theorem pointOf_spec {num den : Nat} (hden : 0 < den) (h : den ≤ num * 10 ^ 400) :
    HasPoint ((num : ℚ) / den) (pointOf num den) := by
  have hden' : (0 : ℚ) < den := Nat.cast_pos.2 hden
  unfold pointOf
  split_ifs with hle
  · have hquotient : 0 < num / den := Nat.div_pos hle hden
    obtain ⟨hlow, hhigh⟩ := digitCount_bounds hquotient
    have hpos : 0 < digitCount (num / den) := Nat.length_toDigits_pos
    constructor
    · rw [le_div_iff₀ hden', ← Nat.cast_one, ← Nat.cast_sub hpos, zpow_natCast]
      exact_mod_cast (Nat.le_div_iff_mul_le hden).1 hlow
    · rw [div_lt_iff₀ hden', zpow_natCast]
      exact_mod_cast (Nat.div_lt_iff_lt_mul hden).1 hhigh
  · obtain ⟨hlow, hhigh⟩ := zerosAfterPoint_bounds (not_le.1 hle) h
    have hlow' : (num : ℚ) * 10 ^ zerosAfterPoint num den 400 < den := by exact_mod_cast hlow
    have hhigh' : (den : ℚ) ≤
      num * 10 ^ (zerosAfterPoint num den 400 + 1) := by exact_mod_cast hhigh
    constructor
    · rw [← neg_add', zpow_neg, ← Nat.cast_succ, zpow_natCast, le_div_iff₀ hden',
        inv_mul_le_iff₀ (by positivity),
        mul_comm]
      exact hhigh'
    · rw [zpow_neg, zpow_natCast, div_lt_iff₀ hden', lt_inv_mul_iff₀ (by positivity), mul_comm]
      exact hlow'

def ShortDecimal.value (d : ShortDecimal) : ℚ := d.digits * 10 ^ (d.point - d.count)

structure ShortDecimal.Gives (d : ShortDecimal) (m : Nat) (e : Int) : Prop where
  near : IsNear m e d.value
  first : 10 ^ (d.count - 1) ≤ d.digits
  count : d.digits < 10 ^ d.count

namespace RoundingInterval
variable {m : Nat} {e point : Int} {count d : Nat}

theorem quotient_spec (hpos : 0 < m) {up down : Nat} (hup : 0 < up) (hdown : 0 < down) :
    ((of m e).value * down / ((of m e).den * up) : Nat) * ((up : ℚ) / down) ≤ m * 2 ^ e ∧
      (m : ℚ) * 2 ^ e <
        ((of m e).value * down / ((of m e).den * up) + 1 : Nat) * ((up : ℚ) / down) := by
  obtain ⟨hden, -, hvalue, -⟩ := of_spec (e := e) hpos
  have hstep : (0 : ℚ) < (up : ℚ) / down := div_pos (Nat.cast_pos.2 hup) (Nat.cast_pos.2 hdown)
  obtain ⟨f, hsplit, hnonneg, hless, -⟩ :=
    quotient_eq ((of m e).value * down) (Nat.mul_pos hden hup)
  have hquotient : (((of m e).value * down : Nat) : ℚ) / ((of m e).den * up : Nat) =
      m * 2 ^ e / (up / down) := by
    rw [Nat.cast_mul, Nat.cast_mul, hvalue]
    field_simp
  rw [hquotient, div_eq_iff hstep.ne'] at hsplit
  constructor
  · rw [hsplit]
    exact mul_le_mul_of_nonneg_right (by linarith) hstep.le
  · rw [hsplit, Nat.cast_add_one]
    exact mul_lt_mul_of_pos_right (by linarith) hstep

/-- Digits on a grid are those of the decimal below the number or of the one above it, of which they
round to the number; there are none only where neither does. -/
theorem digitsAt?_cases (hpos : 0 < m) (point : Int) (count : Nat) :
    ∃ c : Nat, c * 10 ^ (point - count) ≤ (m : ℚ) * 2 ^ e ∧
      (m : ℚ) * 2 ^ e < (c + 1 : Nat) * 10 ^ (point - count) ∧
      ((of m e).digitsAt? point count = none → ¬ IsNear m e (c * 10 ^ (point - count)) ∧
        ¬ IsNear m e ((c + 1 : Nat) * 10 ^ (point - count))) ∧
      ∀ d, (of m e).digitsAt? point count = some d →
        (d = c ∨ d = c + 1) ∧ IsNear m e (d * 10 ^ (point - count)) := by
  obtain ⟨hdown, hunit⟩ := unit_spec (point - count)
  unfold digitsAt?
  dsimp only
  generalize (if 0 ≤ point - count then 1 else Nat.pow 10 (-(point - count)).toNat) = down at *
  generalize (if 0 ≤ point - count then Nat.pow 10 (point - count).toNat else 1) = up at *
  have hup : 0 < up := by
    rcases Nat.eq_zero_or_pos up with rfl | hup
    · rw [Nat.cast_zero, zero_div] at hunit
      exact absurd hunit (ten_zpow_pos (point - count)).ne
    · exact hup
  obtain ⟨hle, hlt⟩ := quotient_spec (e := e) hpos hup hdown
  have hnear := fun c => (admits_iff hpos hdown c : (of m e).admits up down c = true ↔ _)
  rw [hunit] at hle hlt
  simp only [hunit] at hnear
  refine ⟨_, hle, hlt, ?_⟩
  generalize (of m e).value * down / ((of m e).den * up) = c
  have hbelow := hnear c
  have habove := hnear (c + 1)
  cases hc : (of m e).admits up down c <;> cases hc' : (of m e).admits up down (c + 1)
  · exact ⟨fun _ => ⟨fun h => absurd (hbelow.2 h) (by simp [hc]),
      fun h => absurd (habove.2 h) (by simp [hc'])⟩, nofun⟩
  · refine ⟨nofun, fun d hd => ?_⟩
    obtain rfl := Option.some.inj hd
    exact ⟨.inr rfl, habove.1 hc'⟩
  · refine ⟨nofun, fun d hd => ?_⟩
    obtain rfl := Option.some.inj hd
    exact ⟨.inl rfl, hbelow.1 hc⟩
  · refine ⟨nofun, fun d hd => ?_⟩
    rw [← Option.some.inj hd]
    split_ifs
    exacts [⟨.inl rfl, hbelow.1 hc⟩, ⟨.inr rfl, habove.1 hc'⟩, ⟨.inl rfl, hbelow.1 hc⟩,
      ⟨.inr rfl, habove.1 hc'⟩]

theorem digitsAt?_gives (hpos : 0 < m) (hpoint : HasPoint (m * 2 ^ e) point) (hcount : 0 < count)
    (h : (of m e).digitsAt? point count = some d) :
    IsNear m e (d * 10 ^ (point - count)) ∧ 10 ^ (count - 1) ≤ d ∧ d ≤ 10 ^ count := by
  obtain ⟨c, hlow, hhigh, -, hsome⟩ := digitsAt?_cases (e := e) hpos point count
  obtain ⟨hcases, hnear⟩ := hsome d h
  have hgrid := ten_zpow_pos (point - count)
  have hscale : ∀ k : Nat,
    ((10 ^ k : Nat) : ℚ) * 10 ^ (point - count) = 10 ^ (point - count + k) := by
    intro k
    rw [zpow_add₀ (by norm_num), zpow_natCast, mul_comm, Nat.cast_pow, Nat.cast_ofNat]
  have hfirst : 10 ^ (count - 1) < c + 1 := by
    have hlt : ((10 ^ (count - 1) : Nat) : ℚ) * 10 ^ (point - count) <
        (c + 1 : Nat) * 10 ^ (point - count) := by
      have hexponent : point - count + (count - 1 : Nat) = point - 1 := by omega
      rw [hscale, hexponent]
      exact hpoint.low.trans_lt hhigh
    exact Nat.cast_lt.1 (lt_of_mul_lt_mul_right hlt hgrid.le)
  have hlast : c < 10 ^ count := by
    have hlt : (c : ℚ) * 10 ^ (point - count) < (10 ^ count : Nat) * 10 ^ (point - count) := by
      rw [hscale, sub_add_cancel]
      exact hlow.trans_lt hpoint.high
    exact Nat.cast_lt.1 (lt_of_mul_lt_mul_right hlt hgrid.le)
  exact ⟨hnear, by omega, by omega⟩

theorem isSome_digitsAt? (hm : IsNormal m e) (hpos : 0 < m) (hpoint : HasPoint (m * 2 ^ e) point) :
    ((of m e).digitsAt? point 17).isSome = true := by
  obtain ⟨c, hlow, hhigh, hnone, -⟩ := digitsAt?_cases (e := e) hpos point 17
  have hgrid : (10 : ℚ) ^ 16 * 10 ^ (point - (17 : Nat)) ≤ m * 2 ^ e := by
    have hexponent : (10 : ℚ) ^ 16 * 10 ^ (point - (17 : Nat)) = 10 ^ (point - 1) := by
      rw [← zpow_natCast, ← zpow_add₀ (by norm_num)]
      congr 1
      push_cast
      ring
    rw [hexponent]
    exact hpoint.low
  have hfew : (m : ℚ) < 10 ^ 16 * (halfGapBelow m e + 1 / 2) := by
    unfold halfGapBelow
    split_ifs with hpower
    · rw [hpower.1, cast_pow]
      norm_num
    · have hlt := hm.lt_pow
      norm_num at hlt ⊢
      linarith
  rw [Option.isSome_iff_ne_none]
  intro hno
  obtain ⟨hbelow, habove⟩ := hnone hno
  have hunit := two_zpow_pos e
  have hgap := mul_pos (halfGapBelow_pos m e) hunit
  generalize (10 : ℚ) ^ (point - (17 : Nat)) = g at *
  rw [Nat.cast_add_one] at hhigh habove
  -- if neither rounds to the number, the grid is wider than what does
  have hleft : (c : ℚ) * g ≤ (m - halfGapBelow m e) * 2 ^ e := by
    by_contra! hlt
    exact hbelow (.of_between hlt (by linarith))
  have hright : ((m : ℚ) + 1 / 2) * 2 ^ e ≤ (c + 1) * g := by
    by_contra! hlt
    exact habove (.of_between (by linarith) hlt)
  have hwide : (halfGapBelow m e + 1 / 2) * 2 ^ e ≤ g := by linarith
  have hmost := mul_lt_mul_of_pos_right hfew hunit
  linarith

end RoundingInterval

theorem shortestFrom_gives {m : Nat} {e point : Int} (hpos : 0 < m)
    (hpoint : HasPoint (m * 2 ^ e) point) {count fuel : Nat} (hcount : 0 < count)
    (h : ∃ k, count ≤ k ∧ k < count + fuel ∧
      ((RoundingInterval.of m e).digitsAt? point k).isSome = true) :
    (shortestFrom (.of m e) point count fuel).Gives m e := by
  induction fuel generalizing count with
  | zero =>
    obtain ⟨k, hlow, hhigh, -⟩ := h
    omega
  | succ fuel ih =>
    unfold shortestFrom
    cases hdigits : (RoundingInterval.of m e).digitsAt? point count with
    | none =>
      obtain ⟨k, hlow, hhigh, hsome⟩ := h
      have hne : k ≠ count := by
        rintro rfl
        rw [hdigits] at hsome
        cases hsome
      exact ih (Nat.succ_pos count) ⟨k, by omega, by omega, hsome⟩
    | some d =>
      obtain ⟨hnear, hfirst, hlast⟩ := RoundingInterval.digitsAt?_gives hpos hpoint hcount hdigits
      dsimp only
      split_ifs with hround
      -- digits that have become one more are a one and zeros
      · have hd : d = 10 ^ count := beq_iff_eq.1 hround
        have hvalue : (ShortDecimal.mk 1 1 (point + 1)).value = d * 10 ^ (point - count) := by
          have hpower : ((10 ^ count : Nat) : ℚ) * 10 ^ (point - count) = 10 ^ point := by
            rw [Nat.cast_pow, Nat.cast_ofNat, ← zpow_natCast, ← zpow_add₀ (by norm_num),
              add_sub_cancel]
          rw [hd, hpower]
          simp [ShortDecimal.value]
        refine ⟨?_, le_refl 1, show 1 < 10 from by decide⟩
        rw [hvalue]
        exact hnear
      · have hne : d ≠ 10 ^ count := fun heq => hround (beq_iff_eq.2 heq)
        exact ⟨hnear, hfirst, lt_of_le_of_ne hlast hne⟩

theorem two_pow_le {k : Nat} (h : k ≤ 1200) : (2 : ℚ) ^ k ≤ 10 ^ 400 :=
  calc (2 : ℚ) ^ k ≤ 2 ^ (3 * 400) := pow_le_pow_right₀ one_le_two h
    _ = (2 ^ 3) ^ 400 := pow_mul 2 3 400
    _ ≤ 10 ^ 400 := pow_le_pow_left₀ (by norm_num) (by norm_num) 400

theorem two_le_least_mul : (2 : ℚ) ≤ 2 ^ minExponent * 10 ^ 400 := by
  have hleast : (2 : ℚ) ^ minExponent = (2 ^ 1074)⁻¹ := by
    rw [← zpow_natCast, ← zpow_neg]
    rfl
  rw [hleast, le_inv_mul_iff₀ (by positivity), ← pow_succ]
  exact two_pow_le (by decide)

/-- The shortest digits of a number round to it. -/
theorem shortest_gives {m : Nat} {e : Int} (hm : IsNormal m e) (hpos : 0 < m) :
    (shortest m e).Gives m e := by
  obtain ⟨hden, -, hvalue, -⟩ := RoundingInterval.of_spec (e := e) hpos
  have hden' : (0 : ℚ) < (RoundingInterval.of m e).den := Nat.cast_pos.2 hden
  have hmany : (1 : ℚ) ≤ m * 2 ^ e * 10 ^ 400 := by
    have hstep : (2 : ℚ) ^ minExponent ≤ 2 ^ e := zpow_le_zpow_right₀ one_le_two hm.least
    have hone : (1 : ℚ) ≤ m := Nat.one_le_cast.2 hpos
    calc (1 : ℚ) ≤ 2 ^ minExponent * 10 ^ 400 := one_le_two.trans two_le_least_mul
      _ ≤ 1 * 2 ^ e * 10 ^ 400 := by
        rw [one_mul]
        exact mul_le_mul_of_nonneg_right hstep (by positivity)
      _ ≤ m * 2 ^ e * 10 ^ 400 := by gcongr
  have hfuel : (RoundingInterval.of m e).den ≤ (RoundingInterval.of m e).value * 10 ^ 400 := by
    rw [← Nat.cast_le (α := ℚ), Nat.cast_mul, hvalue, Nat.cast_pow, Nat.cast_ofNat]
    rw [mul_right_comm]
    exact le_mul_of_one_le_left hden'.le hmany
  have hpoint : HasPoint (m * 2 ^ e)
      (pointOf (RoundingInterval.of m e).value (RoundingInterval.of m e).den) := by
    have hquotient := pointOf_spec hden hfuel
    rwa [hvalue, mul_div_cancel_right₀ _ hden'.ne'] at hquotient
  exact shortestFrom_gives hpos hpoint one_pos
    ⟨17, by decide, by decide, RoundingInterval.isSome_digitsAt? hm hpos hpoint⟩

namespace IsNear
variable {m digits : Nat} {e exponent : Int}

theorem exponent_le (h : IsNear m e (digits * 10 ^ exponent)) (hm : IsNormal m e)
    (he : e ≤ maxExponent)
    (hdigits : 0 < digits) : exponent ≤ 400 := by
  by_contra! hlarge
  have hgreat : (2 : ℚ) ^ 1024 ≤ digits * 10 ^ exponent := by
    have hone : (1 : ℚ) ≤ digits := Nat.one_le_cast.2 hdigits
    calc (2 : ℚ) ^ 1024 ≤ 10 ^ 400 := two_pow_le (by decide)
      _ = 10 ^ (400 : Int) := (zpow_natCast 10 400).symm
      _ ≤ 10 ^ exponent := zpow_le_zpow_right₀ (by norm_num) hlarge.le
      _ ≤ digits * 10 ^ exponent := le_mul_of_one_le_left (ten_zpow_pos exponent).le hone
  have hsmall : overflow ≤ 2 ^ 1024 := by
    have hpower : (2 : ℚ) ^ 1024 = 2 ^ 53 * 2 ^ maxExponent := by
      rw [← zpow_natCast, ← zpow_natCast, ← zpow_add₀ two_ne_zero]
      rfl
    unfold overflow
    rw [hpower]
    exact mul_le_mul_of_nonneg_right (by norm_num) (two_zpow_pos maxExponent).le
  exact absurd (hsmall.trans hgreat) (not_le.2 (h.lt_overflow hm he))

theorem le_exponent (h : IsNear m e (digits * 10 ^ exponent)) (hm : IsNormal m e) (hpos : 0 < m)
    (hdigits : 0 < digits) : -exponent ≤ Nat.log2 digits + 400 := by
  by_contra! hlarge
  have hmany : (1 : ℚ) ≤ digits * 10 ^ exponent * 10 ^ 400 := by
    have hstep : (2 : ℚ) ^ minExponent ≤ 2 ^ e := zpow_le_zpow_right₀ one_le_two hm.least
    have hone : (1 : ℚ) ≤ m := Nat.one_le_cast.2 hpos
    have hgap := halfGapBelow_le m e
    calc (1 : ℚ) ≤ 1 / 2 * (2 ^ minExponent * 10 ^ 400) := by
          rw [one_div, le_inv_mul_iff₀ two_pos, mul_one]
          exact two_le_least_mul
      _ ≤ 1 / 2 * (2 ^ e * 10 ^ 400) := by gcongr
      _ = 1 / 2 * 2 ^ e * 10 ^ 400 := (mul_assoc _ _ _).symm
      _ ≤ digits * 10 ^ exponent * 10 ^ 400 := by
          refine mul_le_mul_of_nonneg_right (le_trans ?_ h.low) (by positivity)
          exact mul_le_mul_of_nonneg_right (by linarith) (two_zpow_pos e).le
  have hfew : (digits : ℚ) * 10 ^ exponent * 10 ^ 400 < 1 := by
    have hlog := (log2_bounds hdigits).2
    calc (digits : ℚ) * 10 ^ exponent * 10 ^ 400
        = digits * 10 ^ (exponent + 400) := by
          rw [mul_assoc, zpow_add₀ (by norm_num)]
          rfl
      _ < 2 ^ ((Nat.log2 digits : Int) + 1) * 10 ^ (exponent + 400) :=
          mul_lt_mul_of_pos_right hlog (ten_zpow_pos _)
      _ ≤ 10 ^ ((Nat.log2 digits : Int) + 1) * 10 ^ (exponent + 400) := by
          refine mul_le_mul_of_nonneg_right ?_ (ten_zpow_pos _).le
          exact zpow_le_zpow_left₀ (by omega) two_pos.le (by norm_num)
      _ = 10 ^ ((Nat.log2 digits : Int) + 1 + (exponent + 400)) :=
        (zpow_add₀ (by norm_num) _ _).symm
      _ ≤ 1 := zpow_le_one_of_nonpos₀ (by norm_num) (by omega)
  exact absurd hmany (not_le.2 hfew)

theorem ofDecimal_eq (h : IsNear m e (digits * 10 ^ exponent)) (hm : IsNormal m e)
    (he : e ≤ maxExponent) (hpos : 0 < m) (s : Bool) :
    ofDecimal s digits exponent = .finite s m e := by
  have hdigits : 0 < digits := by
    rcases Nat.eq_zero_or_pos digits with rfl | hdigits
    · have hzero := h.pos hpos
      rw [Nat.cast_zero, zero_mul] at hzero
      exact absurd hzero (lt_irrefl 0)
    · exact hdigits
  have hlarge := h.exponent_le hm he hdigits
  have hsmall := h.le_exponent hm hpos hdigits
  unfold ofDecimal
  rw [if_neg (by simpa using hdigits.ne'), if_neg (not_lt.2 hlarge)]
  split_ifs with hsign hguard
  · refine ofRatio_eq ?_ one_pos hm he hpos s
    rwa [Nat.cast_mul, cast_ten_pow hsign, Nat.cast_one, div_one]
  · omega
  · have hnegative : 0 ≤ -exponent := by omega
    have hquotient : IsNear m e ((digits : ℚ) / (Nat.pow 10 (-exponent).toNat : Nat)) := by
      rwa [cast_ten_pow hnegative, zpow_neg, div_inv_eq_mul]
    exact ofRatio_eq hquotient (Nat.pow_pos (by decide)) hm he hpos s

end IsNear

end Intake.Number
