import Intake.Proofs.Places
import Mathlib.Tactic.FieldSimp
import Mathlib.Tactic.Linarith
import Mathlib.Tactic.NormNum
import Mathlib.Tactic.Positivity

/-! Rounding. The quotient of two integers becomes the number nearest to it, of two the one with the
even mantissa, or an infinity from half a step beyond the greatest number on. So integers of at most
53 digits are not changed, and the order of two integers is lost only where both have more. -/

namespace Intake.Number

structure IsRounded (t : ℚ) (m : Nat) : Prop where
  close : |t - m| ≤ 1 / 2
  even : |t - m| = 1 / 2 → m % 2 = 0

namespace IsRounded
variable {t : ℚ} {m : Nat}

theorem half_le (h : IsRounded t m) {k : Int} (hk : k ≠ m) : 1 / 2 ≤ |t - k| := by
  have hapart : (1 : ℚ) ≤ |(m : ℚ) - k| := by
    have hint : 1 ≤ |(m : Int) - k| := Int.one_le_abs (sub_ne_zero.2 (Ne.symm hk))
    exact_mod_cast hint
  have htriangle : |(m : ℚ) - k| ≤ |t - m| + |t - k| := by
    rw [abs_sub_comm t m]
    exact abs_sub_le (m : ℚ) t k
  linarith [h.close]

theorem nearest (h : IsRounded t m) (k : Int) : |t - m| ≤ |t - k| := by
  rcases eq_or_ne k m with rfl | hk
  · simp
  · exact h.close.trans (h.half_le hk)

theorem even_of_tie (h : IsRounded t m) {k : Int} (hk : k ≠ m) (htie : |t - k| = |t - m|) :
    m % 2 = 0 := by
  have hhalf := h.half_le hk
  exact h.even (le_antisymm h.close (htie ▸ hhalf))

theorem lt_of_few (h : IsRounded t m) (hfew : m < Nat.pow 2 53) : t < 2 ^ 53 - 1 / 2 := by
  obtain ⟨-, hhigh⟩ := abs_le.1 h.close
  have hsucc : ((m + 1 : Nat) : ℚ) ≤ (Nat.pow 2 53 : Nat) := Nat.cast_le.2 hfew
  rw [Nat.cast_add_one m, cast_pow] at hsucc
  refine lt_of_le_of_ne (by linarith) fun htie => ?_
  have hlast : ((Nat.pow 2 53 : Nat) : ℚ) ≤ (m + 1 : Nat) := by
    rw [Nat.cast_add_one m, cast_pow]
    linarith
  have hm : m + 1 = Nat.pow 2 53 := le_antisymm hfew (Nat.cast_le.1 hlast)
  have heven : m % 2 = 0 := by
    apply h.even
    rw [abs_of_nonneg (by linarith)]
    linarith
  have hpow : Nat.pow 2 53 % 2 = 0 := by decide
  omega

end IsRounded

theorem quotient_eq (num : Nat) {den : Nat} (h : 0 < den) :
    ∃ f : ℚ, (num : ℚ) / den = (num / den : Nat) + f ∧ 0 ≤ f ∧ f < 1 ∧
      (2 * (num % den) < den ↔ f < 1 / 2) ∧ (den < 2 * (num % den) ↔ 1 / 2 < f) := by
  have hden : (0 : ℚ) < den := Nat.cast_pos.2 h
  have htwice : ((2 * (num % den) : Nat) : ℚ) = 2 * (num % den : Nat) := Nat.cast_mul 2 _
  refine ⟨(num % den : Nat) / den, ?_, by positivity, ?_, ?_, ?_⟩
  · rw [div_eq_iff hden.ne', add_mul, div_mul_cancel₀ _ hden.ne']
    exact_mod_cast (Nat.div_add_mod' num den).symm
  · rw [div_lt_one hden]
    exact Nat.cast_lt.2 (Nat.mod_lt num h)
  · rw [← Nat.cast_lt (α := ℚ), htwice, div_lt_iff₀ hden]
    constructor <;> intro hlt <;> linarith
  · rw [← Nat.cast_lt (α := ℚ), htwice, lt_div_iff₀ hden]
    constructor <;> intro hlt <;> linarith

theorem roundQuotient_isRounded (num : Nat) {den : Nat} (h : 0 < den) :
    IsRounded ((num : ℚ) / den) (roundQuotient num den) := by
  obtain ⟨f, hsplit, hnonneg, hless, hbelow, habove⟩ := quotient_eq num h
  have hdown : |(num : ℚ) / den - (num / den : Nat)| = f := by
    rw [hsplit, add_sub_cancel_left, abs_of_nonneg hnonneg]
  have hup : |(num : ℚ) / den - (num / den + 1 : Nat)| = 1 - f := by
    rw [hsplit, Nat.cast_add_one, add_sub_add_left_eq_sub, abs_sub_comm,
      abs_of_pos (sub_pos.2 hless)]
  unfold roundQuotient
  simp only [beq_iff_eq]
  split_ifs with hlt hgt heven
  · have hf := hbelow.1 hlt
    exact ⟨hdown ▸ hf.le, fun htie => absurd (hdown ▸ htie) hf.ne⟩
  · have hf := habove.1 hgt
    exact ⟨hup ▸ by linarith, fun htie => absurd (hup ▸ htie) (by linarith)⟩
  · have hf := not_lt.1 (mt habove.2 hgt)
    exact ⟨hdown ▸ hf, fun _ => heven⟩
  · have hf := not_lt.1 (mt hbelow.2 hlt)
    exact ⟨hup ▸ by linarith, fun _ => by omega⟩

theorem scaleDown_spec (num : Nat) {den : Nat} (h : 0 < den) (e : Int) :
    0 < (scaleDown num den e).2 ∧
      ((scaleDown num den e).1 : ℚ) / (scaleDown num den e).2 * 2 ^ e = num / den := by
  have hden : (den : ℚ) ≠ 0 := Nat.cast_ne_zero.2 h.ne'
  unfold scaleDown
  split_ifs with he
  · refine ⟨Nat.mul_pos h (Nat.pow_pos two_pos), ?_⟩
    have hpow := (two_zpow_pos e).ne'
    rw [Nat.cast_mul, cast_pow_toNat he]
    field_simp
  · refine ⟨h, ?_⟩
    have hpow := (two_zpow_pos e).ne'
    rw [Nat.cast_mul, cast_pow_toNat (by omega), zpow_neg]
    field_simp

theorem log2_bounds {n : Nat} (h : 0 < n) :
    (2 : ℚ) ^ (Nat.log2 n : Int) ≤ n ∧ (n : ℚ) < 2 ^ ((Nat.log2 n : Int) + 1) := by
  have hle : Nat.pow 2 (Nat.log2 n) ≤ n := Nat.log2_self_le h.ne'
  have hlt : n < Nat.pow 2 (Nat.log2 n + 1) := Nat.lt_log2_self
  constructor
  · rw [zpow_natCast, ← cast_pow]
    exact Nat.cast_le.2 hle
  · have hcast : (n : ℚ) < (Nat.pow 2 (Nat.log2 n + 1) : Nat) := Nat.cast_lt.2 hlt
    rwa [cast_pow, ← zpow_natCast, Nat.cast_add_one] at hcast

namespace Binary64

structure FitsAt (r : ℚ) (e : Int) : Prop where
  least : minExponent ≤ e
  lt : r < 2 ^ 53 * 2 ^ e
  le : 2 ^ 52 * 2 ^ e ≤ r ∨ e = minExponent

theorem quotient_bounds {num den : Nat} (hnum : 0 < num) (hden : 0 < den) {guess : Int}
    (hguess : guess = (Nat.log2 num : Int) - Nat.log2 den - 53) :
    2 ^ 52 * 2 ^ guess ≤ (num : ℚ) / den ∧ (num : ℚ) / den < 2 ^ 54 * 2 ^ guess := by
  have hpos : (0 : ℚ) < den := Nat.cast_pos.2 hden
  obtain ⟨hnumLe, hnumLt⟩ := log2_bounds hnum
  obtain ⟨hdenLe, hdenLt⟩ := log2_bounds hden
  have hshift : ∀ k : Nat, (2 : ℚ) ^ k * 2 ^ guess = 2 ^ (guess + k) := by
    intro k
    rw [zpow_add₀ two_ne_zero, zpow_natCast, mul_comm]
  have hjoin : ∀ i j : Int, (2 : ℚ) ^ i * 2 ^ j = 2 ^ (i + j) := fun i j =>
    (zpow_add₀ two_ne_zero i j).symm
  rw [hshift, hshift]
  constructor
  · rw [le_div_iff₀ hpos]
    calc (2 : ℚ) ^ (guess + (52 : Nat)) * den
        ≤ 2 ^ (guess + (52 : Nat)) * 2 ^ ((Nat.log2 den : Int) + 1) :=
          mul_le_mul_of_nonneg_left hdenLt.le (two_zpow_pos _).le
      _ = 2 ^ (Nat.log2 num : Int) := by
          rw [hjoin]
          congr 1
          omega
      _ ≤ num := hnumLe
  · rw [div_lt_iff₀ hpos]
    calc (num : ℚ) < 2 ^ ((Nat.log2 num : Int) + 1) := hnumLt
      _ = 2 ^ (guess + (54 : Nat)) * 2 ^ (Nat.log2 den : Int) := by
          rw [hjoin]
          congr 1
          omega
      _ ≤ 2 ^ (guess + (54 : Nat)) * den := mul_le_mul_of_nonneg_left hdenLe (two_zpow_pos _).le

theorem div_lt_pow_iff {n d k : Nat} (h : 0 < d) :
    n / d < Nat.pow 2 k ↔ (n : ℚ) / d < 2 ^ k := by
  have hd : (0 : ℚ) < d := Nat.cast_pos.2 h
  rw [Nat.div_lt_iff_lt_mul h, div_lt_iff₀ hd, ← Nat.cast_lt (α := ℚ), Nat.cast_mul, cast_pow]

theorem FitsAt.max_minExponent {r : ℚ} {e : Int} (hlt : r < 2 ^ 53 * 2 ^ e)
    (hle : 2 ^ 52 * 2 ^ e ≤ r) : FitsAt r (max minExponent e) := by
  rcases le_total minExponent e with h | h
  · rw [max_eq_right h]
    exact ⟨h, hlt, .inl hle⟩
  · rw [max_eq_left h]
    have hstep : (2 : ℚ) ^ e ≤ 2 ^ minExponent := zpow_le_zpow_right₀ one_le_two h
    exact ⟨le_refl _, by linarith, .inr rfl⟩

theorem exponentOf_fits {num den : Nat} (hnum : 0 < num) (hden : 0 < den) :
    FitsAt ((num : ℚ) / den) (exponentOf num den) := by
  obtain ⟨guess, hguess⟩ : ∃ g : Int, g = (Nat.log2 num : Int) - Nat.log2 den - 53 := ⟨_, rfl⟩
  obtain ⟨hle, hlt⟩ := quotient_bounds hnum hden hguess
  obtain ⟨hd, hscale⟩ := scaleDown_spec num hden guess
  have hexp : exponentOf num den = max minExponent
      (if (scaleDown num den guess).1 / (scaleDown num den guess).2 < Nat.pow 2 53 then guess
        else guess + 1) := by
    rw [hguess]
    rfl
  have hdigits : (scaleDown num den guess).1 / (scaleDown num den guess).2 < Nat.pow 2 53 ↔
      (num : ℚ) / den < 2 ^ 53 * 2 ^ guess := by
    rw [div_lt_pow_iff hd, ← hscale, mul_lt_mul_iff_left₀ (two_zpow_pos guess)]
  rw [hexp]
  split_ifs with h
  · exact .max_minExponent (hdigits.1 h) hle
  · have hmany := not_lt.1 (mt hdigits.2 h)
    apply FitsAt.max_minExponent
    · rw [two_zpow_succ]
      linarith
    · rw [two_zpow_succ]
      linarith

/-- The rational numbers with a mantissa of 53 digits and an exponent in range. -/
def IsRepresentable (w : ℚ) : Prop :=
  ∃ k e : Int, |k| < 2 ^ 53 ∧ minExponent ≤ e ∧ e ≤ maxExponent ∧ w = k * 2 ^ e

theorem IsRepresentable.on_grid {r w : ℚ} {e : Int} (hw : IsRepresentable w) (he : FitsAt r e) :
    (∃ k : Int, w = k * 2 ^ e) ∨ (|w| < 2 ^ 52 * 2 ^ e ∧ 2 ^ 52 * 2 ^ e ≤ r) := by
  obtain ⟨k, f, hk, hleast, -, rfl⟩ := hw
  rcases le_or_gt e f with hef | hfe
  · left
    refine ⟨k * 2 ^ (f - e).toNat, ?_⟩
    rw [← two_zpow_sub_mul f e, ← mul_assoc]
    push_cast
    rw [← zpow_natCast, Int.toNat_of_nonneg (sub_nonneg.2 hef)]
  · right
    constructor
    · have hstep : (2 : ℚ) ^ (f + 1) ≤ 2 ^ e := zpow_le_zpow_right₀ one_le_two hfe
      rw [two_zpow_succ] at hstep
      have hk' : |(k : ℚ)| < 2 ^ 53 := by exact_mod_cast hk
      have hunit := two_zpow_pos f
      calc |(k : ℚ) * 2 ^ f| = |(k : ℚ)| * 2 ^ f := by rw [abs_mul, abs_of_pos hunit]
        _ < 2 ^ 53 * 2 ^ f := mul_lt_mul_of_pos_right hk' hunit
        _ ≤ 2 ^ 52 * 2 ^ e := by linarith
    · exact he.le.resolve_right fun h => by omega

/-- The quotient rounded on the grid is as near as any representable number, and its mantissa is
even where another one is as near. -/
theorem FitsAt.nearest {r w : ℚ} {e : Int} {m : Nat} (he : FitsAt r e)
    (hm : IsRounded (r / 2 ^ e) m) (hw : IsRepresentable w) :
    |r - m * 2 ^ e| ≤ |r - w| ∧
      (w ≠ m * 2 ^ e → |r - w| = |r - m * 2 ^ e| → m % 2 = 0) := by
  have hunit := two_zpow_pos e
  have hscale : ∀ k : ℚ, |r - k * 2 ^ e| = |r / 2 ^ e - k| * 2 ^ e := by
    intro k
    rw [← abs_of_pos hunit, ← abs_mul, abs_of_pos hunit, sub_mul, div_mul_cancel₀ _ hunit.ne']
  have hgrid : ∀ k : Int, |r - m * 2 ^ e| ≤ |r - k * 2 ^ e| := by
    intro k
    rw [hscale, hscale]
    exact mul_le_mul_of_nonneg_right (hm.nearest k) hunit.le
  rcases hw.on_grid he with ⟨k, rfl⟩ | ⟨hsmall, hlarge⟩
  · refine ⟨hgrid k, fun hne htie => ?_⟩
    rw [hscale, hscale] at htie
    apply hm.even_of_tie (k := k)
    · rintro rfl
      exact hne rfl
    · exact mul_right_cancel₀ hunit.ne' htie
  -- a number off the grid is smaller than its least mantissa, which is nearer to the quotient
  · have hedge := hgrid (2 ^ 52)
    push_cast at hedge
    have hfar : |r - 2 ^ 52 * 2 ^ e| < |r - w| := by
      have hw' := (abs_lt.1 hsmall).2
      rw [abs_of_nonneg (sub_nonneg.2 hlarge)]
      exact lt_of_lt_of_le (by linarith) (le_abs_self _)
    exact ⟨hedge.trans hfar.le, fun _ htie => absurd htie (hedge.trans_lt hfar).ne'⟩

theorem FitsAt.canonical {r : ℚ} {e : Int} {m : Nat} (he : FitsAt r e)
    (hm : IsRounded (r / 2 ^ e) m) :
    m ≤ Nat.pow 2 53 ∧ (Nat.pow 2 52 ≤ m ∨ e = minExponent) := by
  have hunit := two_zpow_pos e
  obtain ⟨hlow, hhigh⟩ := abs_le.1 hm.close
  constructor
  · have hlt : r / 2 ^ e < 2 ^ 53 := (div_lt_iff₀ hunit).2 he.lt
    have hcast : (m : ℚ) < (Nat.pow 2 53 + 1 : Nat) := by
      rw [Nat.cast_add_one, cast_pow]
      linarith
    exact Nat.lt_succ_iff.1 (Nat.cast_lt.1 hcast)
  · refine he.le.imp_left fun hle => ?_
    have hge : (2 : ℚ) ^ 52 ≤ r / 2 ^ e := (le_div_iff₀ hunit).2 hle
    have hcast : ((Nat.pow 2 52 : Nat) : ℚ) < (m + 1 : Nat) := by
      rw [Nat.cast_add_one m, cast_pow]
      linarith
    exact Nat.lt_succ_iff.1 (Nat.cast_lt.1 hcast)

def overflow : ℚ := (2 ^ 53 - 1 / 2) * 2 ^ maxExponent

theorem ofRatio_cases (num : Nat) {den : Nat} (hden : 0 < den) :
    ∃ m e, FitsAt ((num : ℚ) / den) e ∧ IsRounded ((num : ℚ) / den / 2 ^ e) m ∧ ∀ s,
      ((m = Nat.pow 2 53 ∧ ofRatio s num den =
          if maxExponent < e + 1 then .infinite s else .finite s (Nat.pow 2 52) (e + 1)) ∨
        (m ≠ Nat.pow 2 53 ∧ ofRatio s num den =
          if maxExponent < e then .infinite s else .finite s m e)) := by
  rcases Nat.eq_zero_or_pos num with rfl | hnum
  · refine ⟨0, minExponent, ?_, ?_, fun s => .inr ⟨by decide, rfl⟩⟩
    -- zero has no digits and fits at the least exponent
    · have hunit := two_zpow_pos minExponent
      rw [Nat.cast_zero, zero_div]
      exact ⟨le_refl _, by positivity, .inr rfl⟩
    · rw [Nat.cast_zero, zero_div, zero_div]
      exact ⟨by norm_num, fun _ => rfl⟩
  · obtain ⟨hd, hscale⟩ := scaleDown_spec num hden (exponentOf num den)
    refine ⟨roundQuotient (scaleDown num den (exponentOf num den)).1
      (scaleDown num den (exponentOf num den)).2, exponentOf num den,
      exponentOf_fits hnum hden, ?_, ?_⟩
    · rw [← hscale, mul_div_cancel_right₀ _ (two_zpow_pos _).ne']
      exact roundQuotient_isRounded _ hd
    · intro s
      have hzero : (num == 0) = false := beq_false_of_ne hnum.ne'
      rcases eq_or_ne (roundQuotient (scaleDown num den (exponentOf num den)).1
        (scaleDown num den (exponentOf num den)).2) (Nat.pow 2 53) with hcarry | hcarry
      · refine .inl ⟨hcarry, ?_⟩
        simp only [ofRatio, hzero, hcarry, precision, BEq.rfl, Bool.false_eq_true, if_false,
          if_true]
      · refine .inr ⟨hcarry, ?_⟩
        have hfew := beq_false_of_ne hcarry
        simp only [ofRatio, hzero, hfew, precision, Bool.false_eq_true, if_false]

@[simp] theorem ofRatio_isNan (s : Bool) (num den : Nat) : (ofRatio s num den).isNan = false := by
  unfold ofRatio
  split
  · rfl
  · dsimp only
    split <;> split <;> rfl

/-- Mantissa and exponent of a rounded quotient, after a carry into one digit more. -/
structure IsPacked (r : ℚ) (m : Nat) (e : Int) : Prop where
  few : m < Nat.pow 2 53
  least : minExponent ≤ e
  many : Nat.pow 2 52 ≤ m ∨ e = minExponent
  nearest : ∀ w, IsRepresentable w → |r - m * 2 ^ e| ≤ |r - w|
  even : ∀ w, IsRepresentable w → w ≠ m * 2 ^ e → |r - w| = |r - m * 2 ^ e| → m % 2 = 0
  overflows : maxExponent < e ↔ overflow ≤ r

theorem FitsAt.packed {r : ℚ} {e : Int} {m : Nat} (he : FitsAt r e)
    (hm : IsRounded (r / 2 ^ e) m) (hfew : m ≠ Nat.pow 2 53) : IsPacked r m e := by
  obtain ⟨hmost, hmany⟩ := he.canonical hm
  refine ⟨lt_of_le_of_ne hmost hfew, he.least, hmany, fun w hw => (he.nearest hm hw).1,
    fun w hw => (he.nearest hm hw).2, ?_⟩
  unfold overflow
  constructor
  -- beyond the greatest exponent the quotient has all 53 digits
  · intro h
    have hle := he.le.resolve_right fun heq => by
      rw [heq] at h
      exact absurd h (by decide)
    have hstep : (2 : ℚ) ^ (maxExponent + 1) ≤ 2 ^ e := zpow_le_zpow_right₀ one_le_two h
    have hunit := two_zpow_pos maxExponent
    rw [two_zpow_succ] at hstep
    linarith
  · contrapose!
    intro h
    have hstep : (2 : ℚ) ^ e ≤ 2 ^ maxExponent := zpow_le_zpow_right₀ one_le_two h
    have hlt := (div_lt_iff₀ (two_zpow_pos e)).1 (hm.lt_of_few (lt_of_le_of_ne hmost hfew))
    exact hlt.trans_le (mul_le_mul_of_nonneg_left hstep (by norm_num))

theorem FitsAt.packed_carry {r : ℚ} {e : Int} (he : FitsAt r e)
    (hm : IsRounded (r / 2 ^ e) (Nat.pow 2 53)) : IsPacked r (Nat.pow 2 52) (e + 1) := by
  have hsame : ((Nat.pow 2 52 : Nat) : ℚ) * 2 ^ (e + 1) = (Nat.pow 2 53 : Nat) * 2 ^ e := by
    rw [cast_pow, cast_pow, two_zpow_succ]
    ring
  refine ⟨by decide, by have := he.least; omega, .inl (le_refl _), fun w hw => ?_,
    fun _ _ _ _ => by decide, ?_⟩
  · rw [hsame]
    exact (he.nearest hm hw).1
  · unfold overflow
    constructor
    · intro h
      have hstep : (2 : ℚ) ^ maxExponent ≤ 2 ^ e :=
        zpow_le_zpow_right₀ one_le_two (Int.lt_add_one_iff.1 h)
      have hclose := (abs_le.1 hm.close).1
      rw [cast_pow] at hclose
      have hge : (2 : ℚ) ^ 53 - 1 / 2 ≤ r / 2 ^ e := by linarith
      exact (mul_le_mul_of_nonneg_left hstep (by norm_num)).trans
        ((le_div_iff₀ (two_zpow_pos e)).1 hge)
    · contrapose!
      intro h
      have hstep : (2 : ℚ) ^ (e + 1) ≤ 2 ^ maxExponent := zpow_le_zpow_right₀ one_le_two h
      have hunit := two_zpow_pos maxExponent
      have hlt := he.lt
      rw [two_zpow_succ] at hstep
      linarith

theorem ofRatio_packed (num : Nat) {den : Nat} (hden : 0 < den) :
    ∃ m e, IsPacked ((num : ℚ) / den) m e ∧
      ∀ s, ofRatio s num den = if maxExponent < e then .infinite s else .finite s m e := by
  obtain ⟨m, e, he, hm, hcases⟩ := ofRatio_cases num hden
  rcases eq_or_ne m (Nat.pow 2 53) with rfl | hfew
  · exact ⟨_, _, he.packed_carry hm, fun s => ((hcases s).resolve_right fun h => h.1 rfl).2⟩
  · exact ⟨_, _, he.packed hm hfew, fun s => ((hcases s).resolve_left fun h => hfew h.1).2⟩

def HasEvenMantissa : Binary64 → Prop
  | .finite _ m _ => m % 2 = 0
  | _ => False

/-- A number `x` of the value `v` is as near to `q` as any representable number, and its mantissa is
even where another one is as near. -/
structure RoundsTo (q v : ℚ) (x : Binary64) : Prop where
  place : x.place? = some (.of v)
  canonical : x.IsCanonical
  nearest : ∀ w, IsRepresentable w → |q - v| ≤ |q - w|
  even : ∀ w, IsRepresentable w → w ≠ v → |q - w| = |q - v| → x.HasEvenMantissa

theorem IsRepresentable.withSign {w : ℚ} (h : IsRepresentable w) (s : Bool) :
    IsRepresentable (withSign s w) := by
  cases s with
  | false => exact h
  | true =>
    obtain ⟨k, e, hk, hleast, hgreatest, rfl⟩ := h
    refine ⟨-k, e, by rwa [abs_neg], hleast, hgreatest, ?_⟩
    rw [Int.cast_neg, neg_mul]
    rfl

/-- A quotient below the overflow is rounded to the number nearest to it. -/
theorem ofRatio_roundsTo (s : Bool) (num : Nat) {den : Nat} (hden : 0 < den)
    (h : (num : ℚ) / den < overflow) :
    ∃ v, RoundsTo (Binary64.withSign s (num / den)) v (ofRatio s num den) := by
  obtain ⟨m, e, hpacked, hres⟩ := ofRatio_packed num hden
  have hrange : ¬maxExponent < e := mt hpacked.overflows.1 (not_le.2 h)
  rw [hres s, if_neg hrange]
  have hdist : ∀ w, |Binary64.withSign s (num / den) - w| =
      |(num : ℚ) / den - Binary64.withSign s w| := by
    intro w
    rw [← abs_withSign_sub s, withSign_withSign]
  refine ⟨Binary64.withSign s (m * 2 ^ e), rfl, ?_, fun w hw => ?_, fun w hw hne htie => ?_⟩
  · exact ⟨hpacked.few, hpacked.least, not_lt.1 hrange, hpacked.many⟩
  · rw [abs_withSign_sub, hdist]
    exact hpacked.nearest _ (hw.withSign s)
  · rw [abs_withSign_sub, hdist] at htie
    refine hpacked.even _ (hw.withSign s) (fun heq => hne ?_) htie
    rw [← heq, withSign_withSign]

theorem ofRatio_infinite (s : Bool) (num : Nat) {den : Nat} (hden : 0 < den)
    (h : overflow ≤ (num : ℚ) / den) : ofRatio s num den = .infinite s := by
  obtain ⟨m, e, hpacked, hres⟩ := ofRatio_packed num hden
  rw [hres s, if_pos (hpacked.overflows.2 h)]

theorem lt_overflow {q : ℚ} (h : q ≤ 2 ^ 53) : q < overflow := by
  have hunit : (2 : ℚ) ^ (1 : Int) ≤ 2 ^ maxExponent :=
    zpow_le_zpow_right₀ one_le_two (by decide)
  unfold overflow
  rw [zpow_one] at hunit
  linarith

@[simp] theorem withSign_natAbs (n : Int) : withSign (n < 0) ((n.natAbs : ℚ) / (1 : Nat)) = n := by
  have habs : (n.natAbs : ℚ) = |(n : ℚ)| := by
    rw [Nat.cast_natAbs, Int.cast_abs]
  rw [habs, Nat.cast_one, div_one]
  rcases lt_or_ge n 0 with h | h
  · have hneg : (n : ℚ) < 0 := Int.cast_lt_zero.2 h
    simp [withSign, h, abs_of_neg hneg]
  · have hnonneg : (0 : ℚ) ≤ n := Int.cast_nonneg h
    simp [withSign, not_lt.2 h, abs_of_nonneg hnonneg]

theorem ofInt_roundsTo {n : Int} (h : |(n : ℚ)| < overflow) : ∃ v, RoundsTo n v (ofInt n) := by
  have hlt : (n.natAbs : ℚ) / (1 : Nat) < overflow := by
    rwa [Nat.cast_natAbs, Int.cast_abs, Nat.cast_one, div_one]
  have hround := ofRatio_roundsTo (n < 0) n.natAbs one_pos hlt
  rwa [withSign_natAbs] at hround

theorem isInfinite_ofInt_iff {n : Int} : (ofInt n).isInfinite = true ↔ overflow ≤ |(n : ℚ)| := by
  constructor
  · contrapose!
    intro hlt
    obtain ⟨v, hv⟩ := ofInt_roundsTo hlt
    have hplace := hv.place
    intro hinfinite
    cases hn : ofInt n with
    | infinite s => rw [hn] at hplace; cases s <;> cases hplace
    | _ => rw [hn] at hinfinite; cases hinfinite
  · intro hlarge
    have hinfinite : ofInt n = .infinite (n < 0) := by
      apply ofRatio_infinite _ _ one_pos
      rwa [Nat.cast_natAbs, Int.cast_abs, Nat.cast_one, div_one]
    rw [hinfinite]
    rfl

theorem abs_lt_overflow_of_finite {n : Int} (h : (ofInt n).isInfinite = false) :
    |(n : ℚ)| < overflow := by
  rw [← not_le, ← isInfinite_ofInt_iff, h]
  exact Bool.false_ne_true

theorem exists_roundsTo_of_finite {n : Int} (h : (ofInt n).isInfinite = false) :
    ∃ v, RoundsTo n v (ofInt n) := ofInt_roundsTo (abs_lt_overflow_of_finite h)

theorem isRepresentable_of_int {k : Int} (h : |k| ≤ 2 ^ 53) : IsRepresentable k := by
  rcases h.lt_or_eq with hlt | heq
  · exact ⟨k, 0, hlt, by decide, by decide, by simp⟩
  -- the next power of two has one digit more, and is a mantissa at the exponent above
  · rcases (abs_eq (by norm_num)).1 heq with rfl | rfl
    · exact ⟨2 ^ 52, 1, by norm_num, by decide, by decide, by norm_num⟩
    · exact ⟨-2 ^ 52, 1, by norm_num, by decide, by decide, by norm_num⟩

theorem add_le_of_nearer_above {q v w : ℚ} (hlt : w < v) (h : |q - v| ≤ |q - w|) :
    w + v ≤ 2 * q := by
  by_contra! hgt
  have hnear : |q - w| < v - q := abs_lt.2 ⟨by linarith, by linarith⟩
  have hfar : v - q ≤ |q - v| := by
    rw [abs_sub_comm]
    exact le_abs_self _
  linarith

theorem le_add_of_nearer_below {q v w : ℚ} (hlt : v < w) (h : |q - v| ≤ |q - w|) :
    2 * q ≤ w + v := by
  by_contra! hgt
  have hnear : |q - w| < q - v := abs_lt.2 ⟨by linarith, by linarith⟩
  have hfar : q - v ≤ |q - v| := le_abs_self _
  linarith

namespace RoundsTo
variable {q q' v v' w : ℚ} {x y : Binary64}

theorem representable (h : RoundsTo q v x) : IsRepresentable v := by
  obtain ⟨hplace, hcanonical, -, -⟩ := h
  cases x with
  | nan => cases hplace
  | infinite s => cases s <;> cases hplace
  | finite s m e =>
    obtain ⟨hfew, hleast, hgreatest, -⟩ := hcanonical
    have hv : withSign s (m * 2 ^ e) = v :=
      Place.of_strictMono.injective (Option.some.inj hplace)
    rw [← hv]
    apply IsRepresentable.withSign
    refine ⟨m, e, ?_, hleast, hgreatest, by rw [Int.cast_natCast]⟩
    rw [Nat.abs_cast]
    exact_mod_cast hfew

theorem isInfinite_eq (h : RoundsTo q v x) : x.isInfinite = false := by
  have hplace := h.place
  cases x with
  | infinite s => cases s <;> cases hplace
  | _ => rfl

theorem le_of_le (h : RoundsTo q v x) (hw : IsRepresentable w) (hle : q ≤ w) : v ≤ w := by
  by_contra! hlt
  have hmid := add_le_of_nearer_above hlt (h.nearest w hw)
  linarith

theorem ge_of_ge (h : RoundsTo q v x) (hw : IsRepresentable w) (hle : w ≤ q) : w ≤ v := by
  by_contra! hlt
  have hmid := le_add_of_nearer_below hlt (h.nearest w hw)
  linarith

theorem eq_of_representable (h : RoundsTo q v x) (hq : IsRepresentable q) : v = q :=
  le_antisymm (h.le_of_le hq (le_refl q)) (h.ge_of_ge hq (le_refl q))

theorem mono (hx : RoundsTo q v x) (hy : RoundsTo q' v' y) (hlt : q < q') : v ≤ v' := by
  by_contra! hgt
  have habove := add_le_of_nearer_above hgt (hx.nearest v' hy.representable)
  have hbelow := le_add_of_nearer_below hgt (hy.nearest v hx.representable)
  linarith

theorem lt_iff (hx : RoundsTo q v x) (hy : RoundsTo q' v' y) : x.lt y = true ↔ v < v' := by
  rw [Binary64.lt_iff hx.place hy.place, Place.of_strictMono.lt_iff_lt]

theorem gt_iff (hx : RoundsTo q v x) (hy : RoundsTo q' v' y) : x.gt y = true ↔ v' < v := by
  rw [Binary64.gt_iff hx.place hy.place, Place.of_strictMono.lt_iff_lt]

end RoundsTo

theorem rounded_le {k m : Int} {v w : ℚ} (hk : RoundsTo k v (ofInt k))
    (hm : RoundsTo m w (ofInt m)) (hle : k ≤ m) : v ≤ w := by
  rcases hle.lt_or_eq with hlt | rfl
  · exact hk.mono hm (Int.cast_lt.2 hlt)
  · have hplace := hk.place.symm.trans hm.place
    exact (Place.of_strictMono.injective (Option.some.inj hplace)).le

theorem RoundsTo.int_le_iff {n k : Int} {v : ℚ} {x : Binary64} (h : RoundsTo k v x)
    (hleast : -2 ^ 53 < n) (hgreatest : n ≤ 2 ^ 53) : n ≤ v ↔ n ≤ k := by
  constructor
  · contrapose!
    intro hlt
    have hprevious : v ≤ ((n - 1 : Int) : ℚ) :=
      h.le_of_le (isRepresentable_of_int (abs_le.2 (by omega)))
        (Int.cast_le.2 (Int.le_sub_one_of_lt hlt))
    push_cast at hprevious
    linarith
  · exact fun hle => h.ge_of_ge (isRepresentable_of_int (abs_le.2 (by omega))) (Int.cast_le.2 hle)

theorem RoundsTo.le_int_iff {n k : Int} {v : ℚ} {x : Binary64} (h : RoundsTo k v x)
    (hleast : -2 ^ 53 ≤ n) (hgreatest : n < 2 ^ 53) : v ≤ n ↔ k ≤ n := by
  constructor
  · contrapose!
    intro hlt
    have hnext : ((n + 1 : Int) : ℚ) ≤ v :=
      h.ge_of_ge (isRepresentable_of_int (abs_le.2 (by omega))) (Int.cast_le.2 hlt)
    push_cast at hnext
    linarith
  · exact fun hle => h.le_of_le (isRepresentable_of_int (abs_le.2 (by omega))) (Int.cast_le.2 hle)

/-- Two integers keep their order when they are rounded, if one of them has at most 53 digits. -/
theorem rounded_lt_iff {k m : Int} {v w : ℚ} {x y : Binary64} (hx : RoundsTo k v x)
    (hy : RoundsTo m w y) (h : |k| < 2 ^ 53 ∨ |m| < 2 ^ 53) : v < w ↔ k < m := by
  rcases h with hk | hm
  · have hv : v = k := hx.eq_of_representable (isRepresentable_of_int hk.le)
    obtain ⟨hleast, hgreatest⟩ := abs_lt.1 hk
    rw [hv, ← not_le, hy.le_int_iff hleast.le hgreatest, not_le]
  · have hw : w = m := hy.eq_of_representable (isRepresentable_of_int hm.le)
    obtain ⟨hleast, hgreatest⟩ := abs_lt.1 hm
    rw [hw, ← not_le, hx.int_le_iff hleast hgreatest.le, not_le]

theorem natCast_le_rounded_iff {n : Nat} {k : Int} {v : ℚ} {x : Binary64} (h : RoundsTo k v x)
    (hsmall : n ≤ 2 ^ 53 ∨ |k| ≤ 2 ^ 53) : (n : ℚ) ≤ v ↔ (n : Int) ≤ k := by
  rw [← Int.cast_natCast]
  rcases hsmall with hn | hk
  · exact h.int_le_iff (by omega) (by omega)
  · rw [h.eq_of_representable (isRepresentable_of_int hk), Int.cast_le]

theorem place?_ofInt {k : Int} (h : |k| ≤ 2 ^ 53) : (ofInt k).place? = some (.of k) := by
  have hlt : |(k : ℚ)| < overflow := lt_overflow (by exact_mod_cast h)
  obtain ⟨v, hv⟩ := ofInt_roundsTo hlt
  rw [hv.place, hv.eq_of_representable (isRepresentable_of_int h)]

theorem RoundsTo.exists_int {k : Int} {v : ℚ} {x : Binary64} (h : RoundsTo k v x) :
    ∃ n : Int, v = n := by
  rcases le_or_gt |k| (2 ^ 53) with hsmall | hlarge
  · exact ⟨k, h.eq_of_representable (isRepresentable_of_int hsmall)⟩
  have hv : (2 : ℚ) ^ 53 ≤ |v| := by
    have hpower : IsRepresentable ((2 ^ 53 : Int) : ℚ) := isRepresentable_of_int (by norm_num)
    have hopposite : IsRepresentable ((-2 ^ 53 : Int) : ℚ) := isRepresentable_of_int (by norm_num)
    rcases lt_abs.1 hlarge with hpos | hneg
    · have hge := h.ge_of_ge hpower (Int.cast_le.2 hpos.le)
      push_cast at hge
      exact hge.trans (le_abs_self v)
    · have hle := h.le_of_le hopposite (Int.cast_le.2 (by omega))
      push_cast at hle
      exact le_abs.2 (.inr (by linarith))
  obtain ⟨m, e, hm, -, -, rfl⟩ := h.representable
  rcases lt_or_ge e 0 with he | he
  -- a mantissa of 53 digits below the point is less than the least number of 54 digits
  · have hm' : |(m : ℚ)| < 2 ^ 53 := by exact_mod_cast hm
    have hunit : (2 : ℚ) ^ e ≤ 1 := zpow_le_one_of_nonpos₀ one_le_two he.le
    have hpos := two_zpow_pos e
    rw [abs_mul, abs_of_pos hpos] at hv
    have hprod : |(m : ℚ)| * 2 ^ e ≤ |(m : ℚ)| := mul_le_of_le_one_right (abs_nonneg _) hunit
    linarith
  · refine ⟨m * 2 ^ e.toNat, ?_⟩
    push_cast
    rw [← zpow_natCast, Int.toNat_of_nonneg he]

end Binary64

end Intake.Number
