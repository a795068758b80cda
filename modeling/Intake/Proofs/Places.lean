import Intake.Number.Binary64
import Mathlib.Algebra.Order.Field.Power
import Mathlib.Algebra.Order.Field.Rat
import Mathlib.Order.WithBot
import Mathlib.Tactic.Ring

/-! Numbers in order. A finite number stands at a rational one and an infinity beyond all of them,
and whatever two numbers are compared, integers or not, the comparison tells the order of their
places. -/

namespace Intake.Number

/-- Rational numbers between two infinities. -/
abbrev Place : Type := WithBot (WithTop ℚ)

namespace Place

def of (q : ℚ) : Place := ((q : WithTop ℚ) : WithBot (WithTop ℚ))

theorem of_strictMono : StrictMono of :=
  WithBot.coe_strictMono.comp WithTop.coe_strictMono

theorem bot_lt_of (q : ℚ) : ⊥ < of q := WithBot.bot_lt_coe (q : WithTop ℚ)

theorem of_lt_top (q : ℚ) : of q < ⊤ := WithBot.coe_lt_coe.2 (WithTop.coe_lt_top q)

theorem bot_lt_top : (⊥ : Place) < ⊤ := WithBot.bot_lt_coe ⊤

end Place

theorem two_zpow_pos (e : Int) : (0 : ℚ) < 2 ^ e := zpow_pos two_pos e

theorem two_zpow_sub_mul (e k : Int) : (2 : ℚ) ^ (e - k) * 2 ^ k = 2 ^ e := by
  rw [← zpow_add₀ two_ne_zero, sub_add_cancel]

theorem two_zpow_succ (e : Int) : (2 : ℚ) ^ (e + 1) = 2 * 2 ^ e := by
  rw [zpow_add_one₀ two_ne_zero, mul_comm]

theorem cast_pow (k : Nat) : ((Nat.pow 2 k : Nat) : ℚ) = 2 ^ k := by
  exact_mod_cast rfl

theorem cast_pow_toNat {e : Int} (h : 0 ≤ e) : ((Nat.pow 2 e.toNat : Nat) : ℚ) = 2 ^ e := by
  rw [cast_pow, ← zpow_natCast, Int.toNat_of_nonneg h]

namespace Binary64

def withSign (negative : Bool) (q : ℚ) : ℚ := if negative then -q else q

@[simp, grind =] theorem withSign_withSign (s : Bool) (q : ℚ) : withSign s (withSign s q) = q := by
  cases s <;> simp [withSign]

@[simp]
theorem abs_withSign_sub (s : Bool) (p q : ℚ) : |withSign s p - withSign s q| = |p - q| := by
  cases s with
  | false => rfl
  | true =>
    show |-p - -q| = |p - q|
    rw [neg_sub_neg, abs_sub_comm]

theorem signed_mul (s : Bool) (m : Nat) (q : ℚ) : (signed s m : ℚ) * q = withSign s (m * q) := by
  cases s <;> simp [signed, withSign]

def place? : Binary64 → Option Place
  | .nan => none
  | .infinite true => some ⊥
  | .infinite false => some ⊤
  | .finite s m e => some (.of (withSign s (m * 2 ^ e)))

theorem exists_place {x : Binary64} (h : x.isNan = false) : ∃ p, x.place? = some p := by
  cases x with
  | nan => cases h
  | infinite s => cases s <;> exact ⟨_, rfl⟩
  | finite s m e => exact ⟨_, rfl⟩

theorem compareScaled_eq (a ea b eb : Int) :
    compareScaled a ea b eb = cmp ((a : ℚ) * 2 ^ ea) (b * 2 ^ eb) := by
  have hgrid : StrictMono fun z : Int => (z : ℚ) * 2 ^ min ea eb := fun x y h =>
    mul_lt_mul_of_pos_right (Int.cast_lt.2 h) (two_zpow_pos _)
  have hscale : ∀ z e : Int, min ea eb ≤ e →
      ((z * Nat.pow 2 (e - min ea eb).toNat : Int) : ℚ) * 2 ^ min ea eb = z * 2 ^ e := by
    intro z e h
    rw [Int.cast_mul, Int.cast_natCast, cast_pow_toNat (sub_nonneg.2 h), mul_assoc,
      two_zpow_sub_mul]
  unfold compareScaled
  rw [← cmp_eq_compare, ← hgrid.cmp_map_eq]
  rw [hscale a ea (min_le_left ea eb), hscale b eb (min_le_right ea eb)]

theorem compare?_eq (x y : Binary64) :
    compare? x y = x.place?.bind fun p => y.place?.map (cmp p) := by
  cases x with
  | nan => rfl
  | infinite s =>
    cases y with
    | nan => cases s <;> rfl
    | infinite t =>
      have hless : cmp (⊥ : Place) ⊤ = .lt := Place.bot_lt_top.cmp_eq_lt
      have hgreater : cmp (⊤ : Place) ⊥ = .gt := Place.bot_lt_top.cmp_eq_gt
      cases s <;> cases t
      · exact congrArg some (cmp_self_eq_eq (⊤ : Place)).symm
      · exact congrArg some hgreater.symm
      · exact congrArg some hless.symm
      · exact congrArg some (cmp_self_eq_eq (⊥ : Place)).symm
    | finite t n f =>
      cases s
      · exact congrArg some (Place.of_lt_top _).cmp_eq_gt.symm
      · exact congrArg some (Place.bot_lt_of _).cmp_eq_lt.symm
  | finite s m e =>
    cases y with
    | nan => rfl
    | infinite t =>
      cases t
      · exact congrArg some (Place.of_lt_top _).cmp_eq_lt.symm
      · exact congrArg some (Place.bot_lt_of _).cmp_eq_gt.symm
    | finite t n f =>
      show some (compareScaled (signed s m) e (signed t n) f) =
        some (cmp (Place.of (withSign s (m * 2 ^ e))) (Place.of (withSign t (n * 2 ^ f))))
      rw [compareScaled_eq, signed_mul, signed_mul, Place.of_strictMono.cmp_map_eq]

theorem compareInt?_eq (n : Int) (x : Binary64) :
    compareInt? n x = x.place?.map (cmp (Place.of n)) := by
  cases x with
  | nan => rfl
  | infinite s =>
    cases s
    · exact congrArg some (Place.of_lt_top _).cmp_eq_lt.symm
    · exact congrArg some (Place.bot_lt_of _).cmp_eq_gt.symm
  | finite s m e =>
    show some (compareScaled n 0 (signed s m) e) =
      some (cmp (Place.of n) (Place.of (withSign s (m * 2 ^ e))))
    rw [compareScaled_eq, signed_mul, zpow_zero, mul_one, Place.of_strictMono.cmp_map_eq]

end Binary64

namespace Numeric

def place? : Numeric → Option Place
  | .int n => some (.of n)
  | .float x => x.place?

theorem compare?_eq (a b : Numeric) :
    compare? a b = a.place?.bind fun p => b.place?.map (cmp p) := by
  cases a with
  | int n =>
    cases b with
    | int m =>
      show some (compare n m) = some (cmp (Place.of n) (Place.of m))
      rw [Place.of_strictMono.cmp_map_eq, Int.cast_strictMono.cmp_map_eq, cmp_eq_compare]
    | float y => exact Binary64.compareInt?_eq n y
  | float x =>
    cases b with
    | int m =>
      show (Binary64.compareInt? m x).map Ordering.swap =
        x.place?.bind fun p => some (cmp p (Place.of m))
      rw [Binary64.compareInt?_eq]
      cases x.place? with
      | none => rfl
      | some p => exact congrArg some (cmp_swap (Place.of m) p)
    | float y => exact Binary64.compare?_eq x y

section
variable {a b : Numeric} {p q : Place}

theorem compare?_of_places (ha : a.place? = some p) (hb : b.place? = some q) :
    compare? a b = some (cmp p q) := by
  rw [compare?_eq, ha, hb]
  rfl

theorem lt_iff (ha : a.place? = some p) (hb : b.place? = some q) : a.lt b = true ↔ p < q := by
  unfold lt
  rw [compare?_of_places ha hb, beq_iff_eq, Option.some.injEq, cmp_eq_lt_iff]

theorem gt_iff (ha : a.place? = some p) (hb : b.place? = some q) : a.gt b = true ↔ q < p := by
  unfold gt
  rw [compare?_of_places ha hb, beq_iff_eq, Option.some.injEq, cmp_eq_gt_iff]

theorem eqv_iff (ha : a.place? = some p) (hb : b.place? = some q) : a.eqv b = true ↔ p = q := by
  unfold eqv
  rw [compare?_of_places ha hb, beq_iff_eq, Option.some.injEq, cmp_eq_eq_iff]

end

end Numeric

namespace Binary64

section
variable {x y : Binary64} {p q : Place}

theorem lt_iff (hx : x.place? = some p) (hy : y.place? = some q) : x.lt y = true ↔ p < q :=
  Numeric.lt_iff (a := .float x) (b := .float y) hx hy

theorem gt_iff (hx : x.place? = some p) (hy : y.place? = some q) : x.gt y = true ↔ q < p :=
  Numeric.gt_iff (a := .float x) (b := .float y) hx hy

end

end Binary64

end Intake.Number
