import Intake.Proofs.Rounding

/-! Neighbours. A number has one mantissa and exponent, and its neighbours are a unit away, or half
a unit below a power of two. What lies between the middles to the neighbours is rounded to the
number, and so are the middles where the mantissa is even. -/

namespace Intake.Number
open Binary64

structure IsNormal (m : Nat) (e : Int) : Prop where
  few : m < Nat.pow 2 53
  least : minExponent ≤ e
  many : Nat.pow 2 52 ≤ m ∨ e = minExponent

namespace IsNormal
variable {m m' : Nat} {e e' : Int}

theorem lt_pow (h : IsNormal m e) : (m : ℚ) < 2 ^ 53 := by
  have hfew : (m : ℚ) < (Nat.pow 2 53 : Nat) := Nat.cast_lt.2 h.few
  rwa [cast_pow] at hfew

theorem pow_le (h : IsNormal m e) (he : e ≠ minExponent) : (2 : ℚ) ^ 52 ≤ m := by
  have hmany : ((Nat.pow 2 52 : Nat) : ℚ) ≤ m := Nat.cast_le.2 (h.many.resolve_right he)
  rwa [cast_pow] at hmany

theorem fitsAt (h : IsNormal m e) : FitsAt ((m : ℚ) * 2 ^ e) e := by
  have hunit := two_zpow_pos e
  refine ⟨h.least, mul_lt_mul_of_pos_right h.lt_pow hunit, ?_⟩
  by_cases he : e = minExponent
  · exact .inr he
  · exact .inl (mul_le_mul_of_nonneg_right (h.pow_le he) hunit.le)

theorem isRepresentable (h : IsNormal m e) (hmax : e ≤ maxExponent) :
    IsRepresentable ((m : ℚ) * 2 ^ e) := by
  refine ⟨m, e, ?_, h.least, hmax, by rw [Int.cast_natCast]⟩
  rw [Nat.abs_cast]
  exact_mod_cast h.few

theorem exponent_le (h : IsNormal m e) (h' : IsNormal m' e')
    (heq : (m : ℚ) * 2 ^ e = m' * 2 ^ e') : e' ≤ e := by
  by_contra! hlt
  have hmany := h'.pow_le (by have := h.least; omega)
  have hstep : (2 : ℚ) ^ (e + 1) ≤ 2 ^ e' := zpow_le_zpow_right₀ one_le_two hlt
  have hunit := two_zpow_pos e
  rw [two_zpow_succ] at hstep
  have hlarge : (2 : ℚ) ^ 52 * (2 * 2 ^ e) ≤ m' * 2 ^ e' :=
    mul_le_mul hmany hstep (by positivity) (Nat.cast_nonneg m')
  have hsmall := mul_lt_mul_of_pos_right h.lt_pow hunit
  linarith

theorem unique (h : IsNormal m e) (h' : IsNormal m' e') (heq : (m : ℚ) * 2 ^ e = m' * 2 ^ e') :
    m = m' ∧ e = e' := by
  obtain rfl := le_antisymm (h'.exponent_le h heq.symm) (h.exponent_le h' heq)
  exact ⟨Nat.cast_injective (mul_right_cancel₀ (two_zpow_pos e).ne' heq), rfl⟩

end IsNormal

/-- How far below a number, in units of its last digit, the middle to the number before is: the gap
below a power of two is half of the one above it. -/
def halfGapBelow (m : Nat) (e : Int) : ℚ :=
  if m = Nat.pow 2 52 ∧ minExponent < e then 1 / 4 else 1 / 2

namespace IsNormal
variable {m : Nat} {e : Int} {w : ℚ}

theorem next_le (h : IsNormal m e) (hw : IsRepresentable w) (hlt : (m : ℚ) * 2 ^ e < w) :
    ((m : ℚ) + 1) * 2 ^ e ≤ w := by
  rcases hw.on_grid h.fitsAt with ⟨k, rfl⟩ | ⟨hsmall, hle⟩
  · have hk : ((m : Int) : ℚ) < k := lt_of_mul_lt_mul_right hlt (two_zpow_pos e).le
    have hk' : ((m + 1 : Int) : ℚ) ≤ k := Int.cast_le.2 (Int.cast_lt.1 hk)
    push_cast at hk'
    exact mul_le_mul_of_nonneg_right hk' (two_zpow_pos e).le
  · have hw := lt_of_abs_lt hsmall
    linarith

theorem le_of_grid {k : Int} (hlt : (k : ℚ) * 2 ^ e < m * 2 ^ e) :
    (k : ℚ) * 2 ^ e ≤ (m - 1) * 2 ^ e := by
  have hk : (k : ℚ) < (m : Int) := lt_of_mul_lt_mul_right hlt (two_zpow_pos e).le
  have hk' : (k : ℚ) ≤ ((m - 1 : Int) : ℚ) :=
    Int.cast_le.2 (Int.le_sub_one_of_lt (Int.cast_lt.1 hk))
  push_cast at hk'
  exact mul_le_mul_of_nonneg_right hk' (two_zpow_pos e).le

theorem le_previous (h : IsNormal m e) (hw : IsRepresentable w) (hlt : w < m * 2 ^ e) :
    w ≤ (m - 2 * halfGapBelow m e) * 2 ^ e := by
  have hunit := two_zpow_pos e
  unfold halfGapBelow
  split_ifs with hgap
  -- below a power of two the grid is twice as fine
  · obtain ⟨rfl, he⟩ := hgap
    have hhalf : (2 : ℚ) ^ e = 2 * 2 ^ (e - 1) := by
      rw [← two_zpow_succ, sub_add_cancel]
    have hfiner := two_zpow_pos (e - 1)
    rw [cast_pow] at hlt ⊢
    have hfits : FitsAt ((2 ^ 53 - 1) * 2 ^ (e - 1)) (e - 1) :=
      ⟨by omega, by nlinarith, .inl (by nlinarith)⟩
    rcases hw.on_grid hfits with ⟨k, rfl⟩ | ⟨hsmall, -⟩
    · have hk : (k : ℚ) * 2 ^ (e - 1) < (Nat.pow 2 53 : Nat) * 2 ^ (e - 1) := by
        rw [cast_pow]
        linarith
      have hle := le_of_grid hk
      rw [cast_pow] at hle
      linarith
    · have hsmall' := lt_of_abs_lt hsmall
      linarith
  · rw [mul_one_div_cancel two_ne_zero]
    by_cases he : e = minExponent
    · have hfits : FitsAt 0 e := ⟨h.least, by positivity, .inr he⟩
      rcases hw.on_grid hfits with ⟨k, rfl⟩ | ⟨-, hle⟩
      · exact le_of_grid hlt
      · have hpos : (0 : ℚ) < 2 ^ 52 * 2 ^ e := by positivity
        linarith
    · rcases hw.on_grid h.fitsAt with ⟨k, rfl⟩ | ⟨hsmall, -⟩
      · exact le_of_grid hlt
      · have hmany : Nat.pow 2 52 + 1 ≤ m := by
          have hle := h.many.resolve_right he
          have hne : m ≠ Nat.pow 2 52 := fun heq => hgap ⟨heq, lt_of_le_of_ne h.least (Ne.symm he)⟩
          omega
        have hmany' : ((Nat.pow 2 52 + 1 : Nat) : ℚ) ≤ m := Nat.cast_le.2 hmany
        rw [Nat.cast_add_one, cast_pow] at hmany'
        have hstep : (2 : ℚ) ^ 52 * 2 ^ e ≤ (m - 1) * 2 ^ e :=
          mul_le_mul_of_nonneg_right (by linarith) hunit.le
        have hsmall' := lt_of_abs_lt hsmall
        linarith

end IsNormal

/-- A rational number rounds to `m * 2 ^ e`: it lies between the middles to the neighbours, and is
one of the middles only where the mantissa is even. -/
structure IsNear (m : Nat) (e : Int) (q : ℚ) : Prop where
  low : (m - halfGapBelow m e) * 2 ^ e ≤ q
  high : q ≤ (m + 1 / 2) * 2 ^ e
  even : q = (m - halfGapBelow m e) * 2 ^ e ∨ q = (m + 1 / 2) * 2 ^ e → m % 2 = 0

theorem IsNear.of_between {m : Nat} {e : Int} {q : ℚ} (hlow : (m - halfGapBelow m e) * 2 ^ e < q)
    (hhigh : q < (m + 1 / 2) * 2 ^ e) : IsNear m e q :=
  ⟨hlow.le, hhigh.le, fun h => absurd h (not_or.2 ⟨hlow.ne', hhigh.ne⟩)⟩

theorem halfGapBelow_pos (m : Nat) (e : Int) : 0 < halfGapBelow m e := by
  unfold halfGapBelow
  split <;> norm_num

theorem halfGapBelow_le (m : Nat) (e : Int) : halfGapBelow m e ≤ 1 / 2 := by
  unfold halfGapBelow
  split <;> norm_num

theorem Binary64.IsPacked.isNormal {q : ℚ} {m : Nat} {e : Int} (h : IsPacked q m e) :
    IsNormal m e :=
  ⟨h.few, h.least, h.many⟩

namespace IsNear
variable {m m' : Nat} {e e' : Int} {q : ℚ}

theorem pos (h : IsNear m e q) (hm : 0 < m) : 0 < q := by
  have hone : (1 : ℚ) ≤ m := Nat.one_le_cast.2 hm
  have hgap := halfGapBelow_le m e
  exact (mul_pos (by linarith) (two_zpow_pos e)).trans_le h.low

theorem lt_overflow (h : IsNear m e q) (hm : IsNormal m e) (he : e ≤ maxExponent) :
    q < overflow := by
  have hstep : (2 : ℚ) ^ e ≤ 2 ^ maxExponent := zpow_le_zpow_right₀ one_le_two he
  have hmost : ((m + 1 : Nat) : ℚ) ≤ (Nat.pow 2 53 : Nat) := Nat.cast_le.2 hm.few
  rw [Nat.cast_add_one, cast_pow] at hmost
  have hbound : ((m : ℚ) + 1 / 2) * 2 ^ e ≤ overflow :=
    mul_le_mul (by linarith) hstep (two_zpow_pos e).le (by norm_num)
  refine lt_of_le_of_ne (h.high.trans hbound) fun heq => ?_
  -- the middle above the greatest number belongs to no number, since its mantissa is odd
  have hq : q = (m + 1 / 2) * 2 ^ e := le_antisymm h.high (heq ▸ hbound)
  have heven := h.even (.inr hq)
  have hmost' : ((m + 2 : Nat) : ℚ) ≤ (Nat.pow 2 53 : Nat) := by
    have hfew := hm.few
    have hpow : Nat.pow 2 53 % 2 = 0 := by decide
    exact Nat.cast_le.2 (by omega)
  rw [Nat.cast_add, cast_pow] at hmost'
  have hless : ((m : ℚ) + 1 / 2) * 2 ^ e < overflow := by
    refine mul_lt_mul_of_pos_of_nonneg' ?_ hstep (two_zpow_pos _) (by norm_num)
    push_cast at hmost'
    linarith
  linarith

theorem abs_sub_eq_of_middle {v w : ℚ} (h : 2 * q = v + w) : |q - v| = |q - w| := by
  have hswap : q - v = w - q := by linarith
  rw [hswap, abs_sub_comm]

theorem odd_of_next (hm : IsNormal m e) (heven : m % 2 = 0) (hm' : IsNormal m' e')
    (heq : (m' : ℚ) * 2 ^ e' = (m + 1) * 2 ^ e) : m' % 2 = 1 := by
  have hfew := hm.few
  have hpow : Nat.pow 2 53 % 2 = 0 := by decide
  have hnext : IsNormal (m + 1) e :=
    ⟨by omega, hm.least, hm.many.imp_left fun hmany => hmany.trans (Nat.le_succ m)⟩
  have hsame := (hm'.unique hnext (by rw [heq, Nat.cast_add_one])).1
  omega

theorem odd_of_previous (hm : IsNormal m e) (hpos : 0 < m) (heven : m % 2 = 0)
    (hm' : IsNormal m' e')
    (heq : (m' : ℚ) * 2 ^ e' = (m - 2 * halfGapBelow m e) * 2 ^ e) : m' % 2 = 1 := by
  unfold halfGapBelow at heq
  split_ifs at heq with hgap
  · obtain ⟨rfl, he⟩ := hgap
    have hprevious : IsNormal (Nat.pow 2 53 - 1) (e - 1) := ⟨by decide, by omega, .inl (by decide)⟩
    have hhalf : (2 : ℚ) ^ e = 2 * 2 ^ (e - 1) := by
      rw [← two_zpow_succ, sub_add_cancel]
    have hsame : (m' : ℚ) * 2 ^ e' = (Nat.pow 2 53 - 1 : Nat) * 2 ^ (e - 1) := by
      rw [heq, hhalf, Nat.cast_sub (by decide), cast_pow, cast_pow]
      ring
    rw [(hm'.unique hprevious hsame).1]
  · have hprevious : IsNormal (m - 1) e := by
      have hfew := hm.few
      refine ⟨by omega, hm.least, ?_⟩
      by_cases he : e = minExponent
      · exact .inr he
      · have hne : m ≠ Nat.pow 2 52 := fun heq => hgap ⟨heq, lt_of_le_of_ne hm.least (Ne.symm he)⟩
        have hle := hm.many.resolve_right he
        exact .inl (by omega)
    have hsame : (m' : ℚ) * 2 ^ e' = (m - 1 : Nat) * 2 ^ e := by
      rw [heq, Nat.cast_sub hpos, Nat.cast_one, mul_one_div_cancel two_ne_zero]
    have heq' := (hm'.unique hprevious hsame).1
    omega

theorem packed_eq (h : IsNear m e q) (hm : IsNormal m e) (he : e ≤ maxExponent) (hpos : 0 < m)
    (hpacked : IsPacked q m' e') : m = m' ∧ e = e' := by
  have hm' := hpacked.isNormal
  have he' : e' ≤ maxExponent := not_lt.1 (mt hpacked.overflows.1 (not_le.2 (h.lt_overflow hm he)))
  have hv := hm.isRepresentable he
  have hv' := hm'.isRepresentable he'
  have hnearest := hpacked.nearest _ hv
  rcases lt_trichotomy ((m : ℚ) * 2 ^ e) (m' * 2 ^ e') with hlt | heq | hgt
  -- a neighbour is as near only from the middle, where the one with an even mantissa is taken
  · have hnext := hm.next_le hv' hlt
    have hmiddle := add_le_of_nearer_above hlt hnearest
    have hhigh := h.high
    have hq : q = (m + 1 / 2) * 2 ^ e := by linarith
    have hsame : (m' : ℚ) * 2 ^ e' = (m + 1) * 2 ^ e := by linarith
    have heven := h.even (.inr hq)
    have htie := abs_sub_eq_of_middle (q := q) (v := m * 2 ^ e) (w := m' * 2 ^ e') (by linarith)
    have hodd := odd_of_next hm heven hm' hsame
    have heven' := hpacked.even _ hv hlt.ne htie
    omega
  · exact hm.unique hm' heq
  · have hprevious := hm.le_previous hv' hgt
    have hmiddle := le_add_of_nearer_below hgt hnearest
    have hlow := h.low
    have hq : q = (m - halfGapBelow m e) * 2 ^ e := by linarith
    have hsame : (m' : ℚ) * 2 ^ e' = (m - 2 * halfGapBelow m e) * 2 ^ e := by linarith
    have heven := h.even (.inl hq)
    have htie := abs_sub_eq_of_middle (q := q) (v := m * 2 ^ e) (w := m' * 2 ^ e') (by linarith)
    have hodd := odd_of_previous hm hpos heven hm' hsame
    have heven' := hpacked.even _ hv hgt.ne' htie
    omega

theorem ofRatio_eq {num den : Nat} (h : IsNear m e ((num : ℚ) / den)) (hden : 0 < den)
    (hm : IsNormal m e) (he : e ≤ maxExponent) (hpos : 0 < m) (s : Bool) :
    ofRatio s num den = .finite s m e := by
  obtain ⟨m', e', hpacked, hres⟩ := ofRatio_packed num hden
  obtain ⟨rfl, rfl⟩ := h.packed_eq hm he hpos hpacked
  rw [hres s, if_neg (not_lt.2 he)]

end IsNear

end Intake.Number
