import Intake.Proofs.DayNumbers
import Intake.Proofs.Rounding
import Mathlib.Data.Rat.Floor

/-! Days from milliseconds. The seconds are rounded, split and rounded again on the way, and still
the day is the one that the exact milliseconds fall on, before 1970 as well as after. -/

namespace Intake
open Number Number.Binary64

namespace Number

theorem cast_div_add_mod (num : Nat) {den : Nat} (h : 0 < den) :
    (num : ℚ) / den = (num / den : Nat) + (num % den : Nat) / den := by
  have hden : (den : ℚ) ≠ 0 := Nat.cast_ne_zero.2 h.ne'
  rw [div_eq_iff hden, add_mul, div_mul_cancel₀ _ hden]
  exact_mod_cast (Nat.div_add_mod' num den).symm

theorem IsRounded.mem_range {t : ℚ} {m a b : Nat} (h : IsRounded t m) (ha : (a : ℚ) ≤ t)
    (hb : t ≤ b) : a ≤ m ∧ m ≤ b := by
  obtain ⟨hlow, hhigh⟩ := abs_le.1 h.close
  constructor
  · have hlt : (a : ℚ) < (m + 1 : Nat) := by
      push_cast
      linarith
    exact Nat.lt_succ_iff.1 (Nat.cast_lt.1 hlt)
  · have hlt : (m : ℚ) < (b + 1 : Nat) := by
      push_cast
      linarith
    exact Nat.lt_succ_iff.1 (Nat.cast_lt.1 hlt)

namespace Binary64

theorem exists_quotient (m : Nat) (e : Int) :
    ∃ num den : Nat, 0 < den ∧ (num : ℚ) / den = m * 2 ^ e ∧ ∀ s,
      split? (.finite s m e) = some (signed s (num / den), ofRatio s (num % den) den) ∧
      round? (.finite s m e) = some (signed s (roundQuotient num den)) := by
  rcases le_or_gt 0 e with he | he
  · refine ⟨m * Nat.pow 2 e.toNat, 1, one_pos, ?_, fun s => ⟨?_, ?_⟩⟩
    · rw [Nat.cast_one, div_one, Nat.cast_mul, cast_pow_toNat he]
    · have hwhole : signed s (m * Nat.pow 2 e.toNat) = signed s m * Nat.pow 2 e.toNat := by
        cases s <;> simp [signed]
      simp only [split?, if_pos he, Nat.div_one, Nat.mod_one, hwhole]
      rfl
    · simp only [round?, if_pos he]
  · refine ⟨m, Nat.pow 2 (-e).toNat, Nat.pow_pos two_pos, ?_, fun s => ⟨?_, ?_⟩⟩
    · rw [cast_pow_toNat (by omega), zpow_neg, div_inv_eq_mul]
    · simp only [split?, if_neg (not_le.2 he)]
    · simp only [round?, if_neg (not_le.2 he)]

theorem exists_finite_of_lt {num den : Nat} (hden : 0 < den) (h : (num : ℚ) / den < overflow) :
    ∃ m e, (∀ s, ofRatio s num den = .finite s m e) ∧
      RoundsTo (num / den) (m * 2 ^ e) (.finite false m e) := by
  obtain ⟨m, e, hpacked, hres⟩ := ofRatio_packed num hden
  have hfinite : ∀ s, ofRatio s num den = .finite s m e := fun s => by
    rw [hres, if_neg (mt hpacked.overflows.1 (not_le.2 h))]
  obtain ⟨v, hv⟩ := ofRatio_roundsTo false num hden h
  rw [hfinite] at hv
  have hvalue : v = m * 2 ^ e :=
    (Place.of_strictMono.injective (Option.some.inj hv.place)).symm
  rw [hvalue] at hv
  exact ⟨m, e, hfinite, hv⟩

@[simp] theorem signed_natAbs (n : Int) : signed (n < 0) n.natAbs = n := by
  unfold signed
  split_ifs with h <;> simp only [decide_eq_true_eq] at h <;> omega

theorem ofScaled_signed {k : Nat} (hk : 0 < k) (zeroSign s : Bool) (e : Int) :
    ofScaled zeroSign (signed s k) e =
      if 0 ≤ e then ofRatio s (k * Nat.pow 2 e.toNat) 1 else ofRatio s k
        (Nat.pow 2 (-e).toNat) := by
  have hne : (signed s k == 0) = false := by
    cases s <;> simp [signed, hk.ne']
  have hsign : decide (signed s k < 0) = s := by
    cases s <;> simp [signed, hk]
  have habs : (signed s k).natAbs = k := by
    cases s <;> simp [signed]
  simp only [ofScaled, hne, hsign, habs, Bool.false_eq_true, if_false]

theorem exists_mul_eq (m n : Nat) (e f : Int) :
    ∃ num den : Nat, 0 < den ∧ (num : ℚ) / den = m * 2 ^ e * (n * 2 ^ f) ∧ ∀ s,
      mul (.finite s m e) (.finite false n f) = ofRatio s num den := by
  have hvalue : (m : ℚ) * 2 ^ e * (n * 2 ^ f) = (m * n : Nat) * 2 ^ (e + f) := by
    rw [zpow_add₀ two_ne_zero]
    push_cast
    ring
  have hproduct : ∀ s, signed s m * signed false n = signed s (m * n) := by
    intro s
    cases s <;> simp [signed]
  rcases Nat.eq_zero_or_pos (m * n) with hzero | hpos
  · refine ⟨0, 1, one_pos, ?_, fun s => ?_⟩
    · rw [hvalue, hzero, Nat.cast_zero, zero_div, zero_mul]
    · simp only [mul, hproduct, hzero, Bool.bne_false]
      cases s <;> rfl
  · rcases le_or_gt 0 (e + f) with he | he
    · refine ⟨m * n * Nat.pow 2 (e + f).toNat, 1, one_pos, ?_, fun s => ?_⟩
      · rw [hvalue, Nat.cast_one, div_one, Nat.cast_mul, cast_pow_toNat he]
      · simp only [mul, hproduct, ofScaled_signed hpos, if_pos he]
    · refine ⟨m * n, Nat.pow 2 (-(e + f)).toNat, Nat.pow_pos two_pos, ?_, fun s => ?_⟩
      · rw [hvalue, cast_pow_toNat (by omega), zpow_neg, div_inv_eq_mul]
      · simp only [mul, hproduct, ofScaled_signed hpos, if_neg (not_le.2 he)]

theorem exists_million :
    ∃ n f, ofInt 1000000 = .finite false n f ∧ (n : ℚ) * 2 ^ f = 1000000 := by
  obtain ⟨n, f, hfinite, hn⟩ := @exists_finite_of_lt 1000000 1 one_pos
    (lt_overflow (by norm_num))
  have hrep : IsRepresentable (((1000000 : Nat) : ℚ) / (1 : Nat)) := by
    simpa using isRepresentable_of_int (k := 1000000) (by norm_num)
  refine ⟨n, f, hfinite false, ?_⟩
  rw [hn.eq_of_representable hrep]
  norm_num

theorem exists_microseconds {num den : Nat} (hden : 0 < den) (h : num ≤ den) :
    ∃ k : Nat, (∀ s, ((ofRatio s num den).mul (ofInt 1000000)).round? = some (signed s k)) ∧
      (num = 0 → k = 0) ∧
      (1 / 2048 ≤ (num : ℚ) / den → (num : ℚ) / den ≤ 2047 / 2048 → 1 ≤ k ∧ k < 1000000) := by
  have hden' : (0 : ℚ) < den := Nat.cast_pos.2 hden
  have hle : (num : ℚ) / den ≤ 1 := (div_le_one hden').2 (Nat.cast_le.2 h)
  have hint : ∀ k : Int, |k| ≤ 2 ^ 53 → IsRepresentable (k : ℚ) := fun _ => isRepresentable_of_int
  obtain ⟨m, e, hpart, hm⟩ := exists_finite_of_lt hden (lt_overflow (hle.trans (by norm_num)))
  obtain ⟨n, f, hmillion, hn⟩ := exists_million
  obtain ⟨a, b, hb, hproduct, hmul⟩ := exists_mul_eq m n e f
  rw [hn] at hproduct
  have hone : (m : ℚ) * 2 ^ e ≤ 1 := by
    exact_mod_cast hm.le_of_le (hint 1 (by norm_num)) (by exact_mod_cast hle)
  obtain ⟨m', e', hpart', hm'⟩ := exists_finite_of_lt hb (lt_overflow (by rw [hproduct]; linarith))
  obtain ⟨c, d, hd, hvalue, hquotient⟩ := exists_quotient m' e'
  have hrounded := roundQuotient_isRounded c hd
  rw [hvalue] at hrounded
  refine ⟨roundQuotient c d, fun s => ?_, fun hzero => ?_, fun hlow hhigh => ?_⟩
  · rw [hpart, hmillion, hmul, hpart', (hquotient s).2]
  · have hm0 : (m : ℚ) * 2 ^ e ≤ 0 := by
      exact_mod_cast hm.le_of_le (hint 0 (by norm_num)) (by rw [hzero]; simp)
    have hm0' : (m' : ℚ) * 2 ^ e' ≤ (0 : Nat) := by
      exact_mod_cast hm'.le_of_le (hint 0 (by norm_num)) (by rw [hproduct]; push_cast; linarith)
    have hnonneg : ((0 : Nat) : ℚ) ≤ m' * 2 ^ e' := by
      have := two_zpow_pos e'
      positivity
    exact Nat.le_zero.1 (hrounded.mem_range hnonneg hm0').2
  · have hlow' : (1 : ℚ) / 2048 ≤ m * 2 ^ e :=
      hm.ge_of_ge ⟨1, -11, by norm_num, by decide, by decide, by norm_num⟩ hlow
    have hhigh' : (m : ℚ) * 2 ^ e ≤ 2047 / 2048 :=
      hm.le_of_le ⟨2047, -11, by norm_num, by decide, by decide, by norm_num⟩ hhigh
    have hleast : ((1 : Nat) : ℚ) ≤ m' * 2 ^ e' := by
      exact_mod_cast hm'.ge_of_ge (hint 1 (by norm_num)) (by rw [hproduct]; push_cast; linarith)
    have hgreatest : (m' : ℚ) * 2 ^ e' ≤ (999999 : Nat) := by
      exact_mod_cast hm'.le_of_le (hint 999999 (by norm_num))
        (by rw [hproduct]; push_cast; linarith)
    obtain ⟨hk, hk'⟩ := hrounded.mem_range hleast hgreatest
    exact ⟨hk, Nat.lt_succ_of_le hk'⟩

theorem RoundsTo.near {q v : ℚ} {x : Binary64} (h : RoundsTo q v x) (hq : 0 ≤ q)
    (hlt : q < 2 ^ 38) : |q - v| ≤ 1 / 2 ^ 15 := by
  obtain ⟨k, hk⟩ : ∃ k, ⌊q * 2 ^ 15⌋ = k := ⟨_, rfl⟩
  obtain ⟨hfloor, hceil⟩ := Int.floor_eq_iff.1 hk
  have hnonneg : 0 ≤ k := hk ▸ Int.floor_nonneg.2 (by positivity)
  have hgrid : IsRepresentable (k * 2 ^ (-15 : Int)) := by
    refine ⟨k, -15, ?_, by decide, by decide, rfl⟩
    rw [abs_of_nonneg hnonneg]
    exact_mod_cast hfloor.trans_lt (show q * 2 ^ 15 < 2 ^ 53 by linarith)
  refine (h.nearest _ hgrid).trans (abs_le.2 ?_)
  rw [zpow_neg]
  norm_num at hfloor hceil ⊢
  constructor <;> linarith

end Binary64

theorem eq_of_between {a b : Nat} {r : ℚ} (hr : 0 ≤ r) (hr' : r < 1) (hle : (b : ℚ) ≤ a + r)
    (hlt : (a : ℚ) + r < b + 1) : a = b := by
  have hab : (a : ℚ) < (b + 1 : Nat) := by
    push_cast
    linarith
  have hba : (b : ℚ) < (a + 1 : Nat) := by
    push_cast
    linarith
  exact le_antisymm (Nat.lt_succ_iff.1 (Nat.cast_lt.1 hab)) (Nat.lt_succ_iff.1 (Nat.cast_lt.1 hba))

theorem div_eq_of_near {N num den : Nat} (hden : 0 < den)
    (hnear : |(N : ℚ) / (1000 : Nat) - num / den| ≤ 1 / 2 ^ 15)
    (hexact : N % 1000 = 0 → (num : ℚ) / den = N / (1000 : Nat)) :
    num / den = N / 1000 ∧ (N % 1000 = 0 → num % den = 0) ∧
      (N % 1000 ≠ 0 → 1 / 2048 ≤ ((num % den : Nat) : ℚ) / den ∧
        ((num % den : Nat) : ℚ) / den ≤ 2047 / 2048) := by
  have hden' : (0 : ℚ) < den := Nat.cast_pos.2 hden
  have hN := cast_div_add_mod N (show 0 < 1000 by decide)
  have hnum := cast_div_add_mod num hden
  have hrest : 0 ≤ ((num % den : Nat) : ℚ) / den := by positivity
  have hrest' : ((num % den : Nat) : ℚ) / den < 1 :=
    (div_lt_one hden').2 (Nat.cast_lt.2 (Nat.mod_lt _ hden))
  rcases Nat.eq_zero_or_pos (N % 1000) with hzero | hpos
  · have heq := hexact hzero
    rw [hN, hnum, hzero, Nat.cast_zero, zero_div, add_zero] at heq
    have hsame : num / den = N / 1000 := eq_of_between hrest hrest' heq.ge (by linarith)
    have hnone : ((num % den : Nat) : ℚ) / den = 0 := by
      rw [hsame] at heq
      linarith
    have hmod : num % den = 0 := by
      exact_mod_cast (div_eq_zero_iff.1 hnone).resolve_right hden'.ne'
    exact ⟨hsame, fun _ => hmod, fun hne => absurd hzero hne⟩
  · have hleast : ((1 : Nat) : ℚ) ≤ (N % 1000 : Nat) := Nat.cast_le.2 hpos
    have hgreatest : ((N % 1000 : Nat) : ℚ) ≤ (999 : Nat) :=
      Nat.cast_le.2 (Nat.le_of_lt_succ (Nat.mod_lt N (by decide)))
    rw [hN, hnum] at hnear
    obtain ⟨hlow, hhigh⟩ := abs_le.1 hnear
    push_cast at hleast hgreatest hlow hhigh
    norm_num at hlow hhigh
    have hsame : num / den = N / 1000 :=
      eq_of_between hrest hrest' (by linarith) (by linarith)
    rw [hsame] at hlow hhigh
    exact ⟨hsame, fun h => absurd h hpos.ne', fun _ => ⟨by linarith, by linarith⟩⟩

end Number

namespace Calendar

def carried (whole micros : Int) : Int :=
  if 1000000 ≤ micros then whole + 1 else if micros < 0 then whole - 1 else whole

theorem carried_eq {N k : Nat} (hzero : N % 1000 = 0 → k = 0)
    (hrest : N % 1000 ≠ 0 → 1 ≤ k ∧ k < 1000000) (s : Bool) :
    carried (signed s (N / 1000 : Nat)) (signed s k) = signed s N / 1000 := by
  unfold carried signed
  cases s <;> simp only [Bool.false_eq_true, if_false, if_true] <;> split_ifs <;> omega

theorem carried_bounds (whole k : Nat) :
    (whole : Int) ≤ carried (signed false whole) (signed false k) ∧
      carried (signed true whole) (signed true k) ≤ -whole := by
  unfold carried signed
  simp only [Bool.false_eq_true, if_false, if_true]
  constructor <;> split_ifs <;> omega

theorem exists_dateOfSeconds?_eq (m : Nat) (e : Int) :
    ∃ num den k : Nat, 0 < den ∧ (num : ℚ) / den = m * 2 ^ e ∧ (num % den = 0 → k = 0) ∧
      (1 / 2048 ≤ ((num % den : Nat) : ℚ) / den → ((num % den : Nat) : ℚ) / den ≤ 2047 / 2048 →
        1 ≤ k ∧ k < 1000000) ∧
      ∀ s, dateOfSeconds? (.finite s m e) = Date.ofEpochDay?
        (Int.fdiv (carried (signed s (num / den : Nat)) (signed s k)) 86400) := by
  obtain ⟨num, den, hden, hvalue, hquotient⟩ := exists_quotient m e
  obtain ⟨k, hround, hzero, hrest⟩ := exists_microseconds hden (Nat.mod_lt num hden).le
  refine ⟨num, den, k, hden, hvalue, hzero, hrest, fun s => ?_⟩
  unfold dateOfSeconds?
  rw [(hquotient s).1]
  show (((ofRatio s (num % den) den).mul (ofInt 1000000)).round?.bind _) = _
  rw [hround s]
  rfl

theorem ofEpochDay?_eq_none {days : Int} (h : days < -719162 ∨ 2932896 < days) :
    Date.ofEpochDay? days = none := by
  refine Option.eq_none_iff_forall_ne_some.2 fun d hd => ?_
  have hdays := Date.ofEpochDay?_eq_some_iff.1 hd
  have hpos := d.number_pos
  have hle := d.number_le
  unfold Date.epochNumber at hdays
  omega

theorem secondsOfMillis_int (n : Int) :
    secondsOfMillis (.int n) = ofRatio (decide (n < 0)) n.natAbs 1000 := rfl

section
variable {N num den k : Nat} {x : Binary64}

/-- Rounded seconds that are near enough are carried to the second that the milliseconds fall in. -/
theorem carried_eq_of_near (hden : 0 < den) (hx : RoundsTo (N / (1000 : Nat)) (num / den) x)
    (hnear : (N : ℚ) / (1000 : Nat) < 2 ^ 38) (hzero : num % den = 0 → k = 0)
    (hrest : 1 / 2048 ≤ ((num % den : Nat) : ℚ) / den →
      ((num % den : Nat) : ℚ) / den ≤ 2047 / 2048 → 1 ≤ k ∧ k < 1000000) (s : Bool) :
    carried (signed s (num / den : Nat)) (signed s k) = signed s N / 1000 := by
  have hexact : N % 1000 = 0 → (num : ℚ) / den = N / (1000 : Nat) := by
    intro hmod
    apply hx.eq_of_representable
    rw [cast_div_add_mod N (by decide), hmod, Nat.cast_zero, zero_div, add_zero] at hnear ⊢
    rw [← Int.cast_natCast]
    apply isRepresentable_of_int
    rw [Nat.abs_cast]
    have hfew : N / 1000 < 2 ^ 38 := by exact_mod_cast hnear
    exact_mod_cast hfew.le.trans (by norm_num)
  obtain ⟨hsame, hnone, hsome⟩ := div_eq_of_near hden (hx.near (by positivity) hnear) hexact
  rw [hsame]
  exact carried_eq (fun hmod => hzero (hnone hmod))
    (fun hmod => hrest (hsome hmod).1 (hsome hmod).2) s

theorem ofEpochDay?_eq_none_of_far (hden : 0 < den)
    (hx : RoundsTo (N / (1000 : Nat)) (num / den) x) (hfar : 2 ^ 38 ≤ (N : ℚ) / (1000 : Nat))
    (s : Bool) :
    Date.ofEpochDay? (carried (signed s (num / den : Nat)) (signed s k) / 86400) = none ∧
      Date.ofEpochDay? (signed s N / 86400000) = none := by
  have hwhole : 2 ^ 38 ≤ num / den := by
    have hgrid : IsRepresentable (2 ^ 38) := ⟨1, 38, by norm_num, by decide, by decide, by norm_num⟩
    have hge := (le_div_iff₀ (Nat.cast_pos.2 hden)).1 (hx.ge_of_ge hgrid hfar)
    rw [Nat.le_div_iff_mul_le hden]
    exact_mod_cast hge
  have hmillis : 2 ^ 38 * 1000 ≤ N := by
    have hge := (le_div_iff₀ (show (0 : ℚ) < (1000 : Nat) by norm_num)).1 hfar
    exact_mod_cast hge
  obtain ⟨hafter, hbefore⟩ := carried_bounds (num / den) k
  cases s
  · have hN : signed false N = N := rfl
    exact ⟨ofEpochDay?_eq_none (by omega), ofEpochDay?_eq_none (by omega)⟩
  · have hN : signed true N = -N := rfl
    exact ⟨ofEpochDay?_eq_none (by omega), ofEpochDay?_eq_none (by omega)⟩

end

/-- Milliseconds fall on the day on which they begin, whichever way they are rounded. -/
theorem dateOfMillis?_int {n : Int} (h : |(n : ℚ)| < overflow) :
    dateOfMillis? (.int n) = Date.ofEpochDay? (n / 86400000) := by
  obtain ⟨N, hN⟩ : ∃ N, n.natAbs = N := ⟨_, rfl⟩
  obtain ⟨s, hs⟩ : ∃ s, decide (n < 0) = s := ⟨_, rfl⟩
  have hn : signed s N = n := by
    rw [← hN, ← hs]
    exact signed_natAbs n
  have hcast : (N : ℚ) = |(n : ℚ)| := by
    rw [← hN, Nat.cast_natAbs, Int.cast_abs]
  have hlt : (N : ℚ) / (1000 : Nat) < overflow := by
    have hnonneg : (0 : ℚ) ≤ N := Nat.cast_nonneg N
    push_cast
    linarith
  obtain ⟨m, e, hfinite, hm⟩ := exists_finite_of_lt (show 0 < 1000 by decide) hlt
  obtain ⟨num, den, k, hden, hvalue, hzero, hrest, hdate⟩ := exists_dateOfSeconds?_eq m e
  rw [← hvalue] at hm
  unfold dateOfMillis?
  rw [secondsOfMillis_int, hs, hN, hfinite, hdate, ← hn, Int.fdiv_eq_ediv_of_nonneg _ (by decide)]
  rcases lt_or_ge ((N : ℚ) / (1000 : Nat)) (2 ^ 38) with hnear | hfar
  · rw [carried_eq_of_near hden hm hnear hzero hrest s, Int.ediv_ediv_of_nonneg (by decide)]
    rfl
  · obtain ⟨hnone, hnone'⟩ := ofEpochDay?_eq_none_of_far hden hm hfar s
    rw [hnone, hnone']

end Calendar

end Intake
