import Intake.Check.Length
import Intake.Proofs.FileLimits
import Intake.Proofs.WellFormed
import Mathlib.Data.Rat.Floor

/-! Bounds on lengths. A rule that is accepted has bounds that are numbers and in order, but lengths
are whole numbers: a text or a list passes the rule for some length exactly when a whole number lies
between the bounds, which fractions and infinity may leave without one. -/

namespace Intake

variable {names : Pattern.Names}
open Number Number.Binary64

namespace Value

/-- A value is read as a number, which has a place. -/
def StandsAt (v : Value) (p : Place) : Prop :=
  ∃ x, v.toNumber = .ok (some x) ∧ x.place? = some p

def IsAtMost (least : Value) (length : Nat) : Prop := ∃ p, least.StandsAt p ∧ p ≤ .of length

def Between (least greatest : Value) (length : Nat) : Prop :=
  (least ≠ .null → least.IsAtMost length) ∧ (greatest ≠ .null → greatest.Covers length)

theorem StandsAt.eq {v : Value} {p q : Place} (hp : v.StandsAt p) (hq : v.StandsAt q) : p = q := by
  obtain ⟨x, hx, hp⟩ := hp
  obtain ⟨y, hy, hq⟩ := hq
  rw [hx] at hy
  cases hy
  exact Option.some.inj (hp.symm.trans hq)

theorem StandsAt.isAtMost_iff {v : Value} {p : Place} (h : v.StandsAt p) (length : Nat) :
    v.IsAtMost length ↔ p ≤ .of length := by
  constructor
  · rintro ⟨q, hq, hle⟩
    rwa [h.eq hq]
  · exact fun hle => ⟨p, h, hle⟩

theorem covers_iff_standsAt {v : Value} {length : Nat} :
    v.Covers length ↔ ∃ p, v.StandsAt p ∧ .of length ≤ p := by
  constructor
  · rintro ⟨x, p, hx, hp, hle⟩
    exact ⟨p, ⟨x, hx, hp⟩, hle⟩
  · rintro ⟨p, ⟨x, hx, hp⟩, hle⟩
    exact ⟨x, p, hx, hp, hle⟩

theorem standsAt_int {k : Int} {x : Option Binary64} (h : (Value.int k).toNumber = .ok x) :
    ∃ n : Int, (Value.int k).StandsAt (.of n) := by
  obtain ⟨v, hv, -⟩ := exists_roundsTo_of_toNumber h
  obtain ⟨n, rfl⟩ := hv.exists_int
  exact ⟨n, ofInt k, toNumber_int hv, hv.place⟩

theorem IsBound.standsAt {v : Value} {floor : Int} (hfloor : |floor| ≤ 2 ^ 53)
    (h : v.IsBound (some floor)) (hgiven : v ≠ .null) : ∃ p, v.StandsAt p ∧ .of floor ≤ p := by
  obtain ⟨x, hx, hlow⟩ := h.resolve_left hgiven
  obtain ⟨p, hp⟩ := exists_place_of_toNumber hx
  refine ⟨p, ⟨x, hx, hp⟩, ?_⟩
  rw [← not_lt, ← lt_iff hp (place?_ofInt hfloor), hlow floor rfl]
  exact Bool.false_ne_true

theorem NotGreater.le {v w : Value} (h : v.NotGreater w) {p q : Place} (hp : v.StandsAt p)
    (hq : w.StandsAt q) : p ≤ q := by
  obtain ⟨x, hx, hp⟩ := hp
  obtain ⟨y, hy, hq⟩ := hq
  rw [← not_lt, ← gt_iff hp hq, h x y hx hy]
  exact Bool.false_ne_true

/-- Two bounds on a length that make sense. -/
structure AreBounds (least greatest : Value) : Prop where
  low : least.IsBound (some 0)
  high : greatest.IsBound (some 1)
  ordered : least.NotGreater greatest

namespace AreBounds
variable {least greatest : Value}

theorem least_standsAt (h : AreBounds least greatest) (hgiven : least ≠ .null) :
    ∃ p, least.StandsAt p ∧ .of (0 : Int) ≤ p :=
  h.low.standsAt (by decide) hgiven

theorem greatest_standsAt (h : AreBounds least greatest) (hgiven : greatest ≠ .null) :
    ∃ p, greatest.StandsAt p ∧ .of (1 : Int) ≤ p :=
  h.high.standsAt (by decide) hgiven

theorem covers_one (h : AreBounds least greatest) (hgiven : greatest ≠ .null) :
    greatest.Covers 1 := by
  obtain ⟨p, hp, hle⟩ := h.greatest_standsAt hgiven
  exact covers_iff_standsAt.2 ⟨p, hp, by exact_mod_cast hle⟩

/-- Where no element at all is within the bounds, one element is too. -/
theorem exists_positive (h : AreBounds least greatest) {n : Nat} (hn : Between least greatest n) :
    ∃ m, m ≠ 0 ∧ Between least greatest m := by
  cases n with
  | zero =>
    refine ⟨1, one_ne_zero, fun hgiven => ?_, h.covers_one⟩
    obtain ⟨p, hp, hle⟩ := hn.1 hgiven
    exact ⟨p, hp, hle.trans (Place.of_strictMono.monotone (Nat.cast_le.2 zero_le_one))⟩
  | succ n => exact ⟨n + 1, n.succ_ne_zero, hn⟩

theorem exists_between_iff (h : AreBounds least greatest) : (∃ n, Between least greatest n) ↔
    (least ≠ .null → ∃ a : ℚ, least.StandsAt (.of a) ∧
      ∀ q, greatest.StandsAt q → .of ⌈a⌉₊ ≤ q) := by
  constructor
  · rintro ⟨n, hleast, hgreatest⟩ hgiven
    obtain ⟨p, hp, hge⟩ := h.least_standsAt hgiven
    have hle : p ≤ .of n := (hp.isAtMost_iff n).1 (hleast hgiven)
    -- the place is between two finite ones
    obtain ⟨a, rfl⟩ : ∃ a : ℚ, p = .of a := by
      rcases p with _ | _ | a
      · exact absurd ((Place.bot_lt_of _).trans_le hge) (lt_irrefl _)
      · exact absurd (hle.trans_lt (Place.of_lt_top _)) (lt_irrefl _)
      · exact ⟨a, rfl⟩
    have hceil : ⌈a⌉₊ ≤ n := Nat.ceil_le.2 (Place.of_strictMono.le_iff_le.1 hle)
    refine ⟨a, hp, fun q hq => ?_⟩
    have hgreatest_given : greatest ≠ .null := by
      rintro rfl
      obtain ⟨x, hx, -⟩ := hq
      cases hx
    obtain ⟨q', hq', hcovers⟩ := covers_iff_standsAt.1 (hgreatest hgreatest_given)
    rw [hq.eq hq']
    exact (Place.of_strictMono.monotone (Nat.cast_le.2 hceil)).trans hcovers
  · intro hfinite
    by_cases hgiven : least = .null
    · exact ⟨1, fun hne => absurd hgiven hne, h.covers_one⟩
    obtain ⟨a, ha, hup⟩ := hfinite hgiven
    refine ⟨⌈a⌉₊, fun _ => ⟨_, ha, Place.of_strictMono.monotone (Nat.le_ceil a)⟩, fun hne => ?_⟩
    obtain ⟨q, hq, -⟩ := h.greatest_standsAt hne
    exact covers_iff_standsAt.2 ⟨q, hq, hup q hq⟩

theorem exists_between_of_whole (h : AreBounds least greatest) {k : Int}
    (hk : least.StandsAt (.of k)) : ∃ n, Between least greatest n := by
  rw [h.exists_between_iff]
  intro hgiven
  obtain ⟨p, hp, hge⟩ := h.least_standsAt hgiven
  rw [hp.eq hk, Place.of_strictMono.le_iff_le, Int.cast_le] at hge
  have hceil : ((⌈(k : ℚ)⌉₊ : Nat) : ℚ) = k := by
    rw [Nat.ceil_intCast]
    exact_mod_cast Int.toNat_of_nonneg hge
  refine ⟨k, hk, fun q hq => ?_⟩
  rw [hceil]
  exact h.ordered.le hk hq

end AreBounds

end Value

namespace Check
open Value

@[simp]
theorem outOfBounds_eq_nil_iff {isBelow isAbove : Bool} {tooSmall tooLarge : Except Fault String} :
    outOfBounds isBelow isAbove tooSmall tooLarge = .ok [] ↔ isBelow = false ∧ isAbove = false := by
  cases isBelow <;> cases isAbove <;> cases tooSmall <;> cases tooLarge <;>
    simp [outOfBounds, messageIf, bind, Except.bind, pure, Except.pure]

theorem exists_bound {v : Value} {floor : Int} (h : v.IsBound (some floor)) (length : Nat) :
    ∃ number, v.toNumber = .ok number ∧
      (number.any (fun x => (Numeric.int length).lt (.float x)) = false ↔
        (v ≠ .null → v.IsAtMost length)) ∧
      (number.any (fun x => (Numeric.int length).gt (.float x)) = false ↔
        (v ≠ .null → v.Covers length)) := by
  rcases h with rfl | ⟨x, hx, -⟩
  · exact ⟨none, rfl, by simp, by simp⟩
  obtain ⟨p, hp⟩ := exists_place_of_toNumber hx
  have hgiven : v ≠ .null := by
    rintro rfl
    cases hx
  have hlength : (Numeric.int length).place? = some (.of length) := by
    rw [Numeric.place?, Int.cast_natCast]
  have hstands : v.StandsAt p := ⟨x, hx, hp⟩
  refine ⟨some x, hx, ?_, ?_⟩
  · rw [imp_iff_right hgiven, hstands.isAtMost_iff, Option.any_some, ← Bool.not_eq_true,
      Numeric.lt_iff (b := .float x) hlength hp, not_lt]
  · rw [imp_iff_right hgiven, covers_iff hx hp, Option.any_some, ← Bool.not_eq_true,
      Numeric.gt_iff (b := .float x) hlength hp, not_lt]

section
variable {least greatest : Value} (h : AreBounds least greatest) (extra : List (Value × Value))
include h

theorem lengthFailures_eq_nil_iff (label : String) (value : Value) (length : Nat) :
    lengthFailures label value length (.options ⟨.length least greatest, extra⟩) = .ok [] ↔
      Between least greatest length := by
  obtain ⟨low, hlow, hbelow, -⟩ := exists_bound h.low length
  obtain ⟨high, hhigh, -, habove⟩ := exists_bound h.high length
  have hbounds : lengthBounds (.options ⟨.length least greatest, extra⟩) = .ok (least, greatest) :=
    rfl
  unfold lengthFailures
  simp only [hbounds, hlow, hhigh, ok_bind]
  rw [outOfBounds_eq_nil_iff, hbelow, habove]
  rfl

theorem exists_string_iff :
    (∃ s, string (.text s) (.options ⟨.length least greatest, extra⟩) = .ok []) ↔
      ∃ n, Between least greatest n := by
  constructor
  · rintro ⟨s, hs⟩
    unfold string at hs
    by_cases hblank : isBlankText s = true
    · simp [hblank] at hs
    · simp only [hblank] at hs
      exact ⟨s.length, (lengthFailures_eq_nil_iff h extra _ _ _).1 hs⟩
  · rintro ⟨n, hn⟩
    obtain ⟨m, hm, hbetween⟩ := h.exists_positive hn
    let s := String.ofList (List.replicate m 'a')
    have hblank : isBlankText s = false := by
      obtain ⟨k, rfl⟩ := Nat.exists_eq_succ_of_ne_zero hm
      unfold isBlankText
      rw [String.toList_ofList, List.replicate_succ, List.all_cons]
      rfl
    have hlength : s.length = m := by
      rw [String.length_ofList, List.length_replicate]
    refine ⟨s, ?_⟩
    unfold string
    simp only [hblank]
    rw [hlength]
    exact (lengthFailures_eq_nil_iff h extra _ _ _).2 hbetween

theorem exists_array_iff :
    (∃ xs, array (.list xs) (.options ⟨.length least greatest, extra⟩) = .ok []) ↔
      ∃ n, Between least greatest n := by
  constructor
  · rintro ⟨xs, hxs⟩
    exact ⟨xs.length, (lengthFailures_eq_nil_iff h extra _ _ _).1 hxs⟩
  · rintro ⟨n, hn⟩
    refine ⟨List.replicate n .null, (lengthFailures_eq_nil_iff h extra _ _ _).2 ?_⟩
    rwa [List.length_replicate]

end

end Check

namespace Definition
open Value

theorem areBounds_of_accepted {b : RuleBag} (h : bagFailures names b = .ok []) {kind : RuleKind}
    (hkind : kind = .string ∨ kind = .array) {least greatest : Value}
    {extra : List (Value × Value)}
    (hrule : (kind.key, .options ⟨.length least greatest, extra⟩) ∈ b.rules) :
    AreBounds least greatest := by
  have hsuits := ((bagFailures_eq_nil_iff h).1 rfl).rule hrule
  rcases hkind with rfl | rfl
  · rcases hsuits with heq | ⟨o, heq, hsuits⟩
    · cases heq
    · cases heq
      exact ⟨hsuits.1, hsuits.2.1, hsuits.2.2⟩
  · rcases hsuits with heq | ⟨o, heq, hsuits⟩
    · cases heq
    · cases heq
      exact ⟨hsuits.1, hsuits.2.1, hsuits.2.2⟩

/-- An accepted rule on lengths lets a text pass, and lets a list pass, exactly when a whole number
lies between its bounds: when the least one is not given or finite, and rounded up not above the
greatest one. This is so for every least length that is a whole number, as integers are. -/
theorem lengths_satisfiable_iff {b : RuleBag} (h : bagFailures names b = .ok []) {kind : RuleKind}
    (hkind : kind = .string ∨ kind = .array) {least greatest : Value}
    {extra : List (Value × Value)}
    (hrule : (kind.key, .options ⟨.length least greatest, extra⟩) ∈ b.rules) :
    ((∃ s, Check.string (.text s) (.options ⟨.length least greatest, extra⟩) = .ok []) ↔
      ∃ n, Between least greatest n) ∧
    ((∃ xs, Check.array (.list xs) (.options ⟨.length least greatest, extra⟩) = .ok []) ↔
      ∃ n, Between least greatest n) ∧
    ((∃ n, Between least greatest n) ↔ (least ≠ .null → ∃ a : ℚ, least.StandsAt (.of a) ∧
      ∀ q, greatest.StandsAt q → .of ⌈a⌉₊ ≤ q)) ∧
    (least = .null ∨ (∃ k, least = .int k) ∨ (∃ k : Int, least.StandsAt (.of k)) →
      ∃ n, Between least greatest n) := by
  have hbounds := areBounds_of_accepted h hkind hrule
  refine ⟨Check.exists_string_iff hbounds extra, Check.exists_array_iff hbounds extra,
    hbounds.exists_between_iff, ?_⟩
  rintro (hnull | ⟨k, rfl⟩ | ⟨k, hk⟩)
  · exact hbounds.exists_between_iff.2 fun hgiven => absurd hnull hgiven
  · obtain ⟨p, ⟨x, hx, -⟩, -⟩ := hbounds.least_standsAt (by nofun)
    obtain ⟨n, hn⟩ := standsAt_int hx
    exact hbounds.exists_between_of_whole hn
  · exact hbounds.exists_between_of_whole hk

def lengthRule (least greatest : Value) : Rule := .options ⟨.length least greatest, []⟩

def lengthBag (r : Rule) : RuleBag := ⟨[(RuleKind.string.key, r), (RuleKind.array.key, r)]⟩

theorem bagFailures_of_isEmpty {b : RuleBag}
    (h : (bagFailures names b).toOption.map List.isEmpty = some true) :
    bagFailures names b = .ok [] := by
  obtain ⟨failures, hfailures, hempty⟩ := exists_of_toOption h
  rw [hfailures, List.isEmpty_iff.1 hempty]

/-- Two is between two and two and a half. -/
theorem lengths_satisfiable_two :
    bagFailures .none (lengthBag (lengthRule (.int 2) (.text "2.5"))) = .ok [] ∧
      (∃ s, Check.string (.text s) (lengthRule (.int 2) (.text "2.5")) = .ok []) ∧
      ∃ xs, Check.array (.list xs) (lengthRule (.int 2) (.text "2.5")) = .ok [] := by
  have haccepted : bagFailures .none (lengthBag (lengthRule (.int 2) (.text "2.5"))) = .ok [] :=
    bagFailures_of_isEmpty (by decide +kernel)
  have hrule : (RuleKind.string.key, .options ⟨.length (.int 2) (.text "2.5"), []⟩) ∈
      (lengthBag (lengthRule (.int 2) (.text "2.5"))).rules := List.mem_cons_self
  obtain ⟨htext, hlist, -, hwhole⟩ := lengths_satisfiable_iff haccepted (.inl rfl) hrule
  have hbetween := hwhole (.inr (.inl ⟨2, rfl⟩))
  exact ⟨haccepted, htext.2 hbetween, hlist.2 hbetween⟩

theorem standsAt_half : (Value.text "1.5").StandsAt (.of (3 / 2)) := by
  have hread : (Value.text "1.5").toNumber =
      .ok (some (.finite false 6755399441055744 (-52))) := rfl
  refine ⟨_, hread, congrArg (fun q => some (Place.of q)) ?_⟩
  norm_num [withSign]

theorem standsAt_infinity : (Value.text "Infinity").StandsAt ⊤ := ⟨.infinite false, rfl, rfl⟩

theorem not_between_half (n : Nat) : ¬ Between (.text "1.5") (.text "1.5") n := by
  rintro ⟨hleast, hgreatest⟩
  have hlow := (standsAt_half.isAtMost_iff n).1 (hleast (by nofun))
  obtain ⟨q, hq, hhigh⟩ := covers_iff_standsAt.1 (hgreatest (by nofun))
  rw [hq.eq standsAt_half] at hhigh
  rw [Place.of_strictMono.le_iff_le] at hlow hhigh
  have htwice : (2 * n : ℚ) = 3 := by linarith
  have hodd : 2 * n = 3 := by exact_mod_cast htwice
  omega

theorem not_between_infinity (n : Nat) : ¬ Between (.text "Infinity") .null n := by
  rintro ⟨hleast, -⟩
  have hlow := (standsAt_infinity.isAtMost_iff n).1 (hleast (by nofun))
  exact absurd (Place.of_lt_top n) (not_lt.2 hlow)

theorem none_passes {least greatest : Value}
    (h : bagFailures names (lengthBag (lengthRule least greatest)) = .ok [])
    (hnone : ∀ n, ¬ Between least greatest n) :
    (¬ ∃ s, Check.string (.text s) (lengthRule least greatest) = .ok []) ∧
      ¬ ∃ xs, Check.array (.list xs) (lengthRule least greatest) = .ok [] := by
  have hbounds := areBounds_of_accepted h (.inl rfl) List.mem_cons_self
  exact ⟨mt (Check.exists_string_iff hbounds []).1 (not_exists.2 hnone),
    mt (Check.exists_array_iff hbounds []).1 (not_exists.2 hnone)⟩

/-- Both bounds may be the same fraction, and the least one may be infinite: the rule is accepted,
and neither a text nor a list passes it. -/
theorem lengths_unsatisfiable :
    (bagFailures .none (lengthBag (lengthRule (.text "1.5") (.text "1.5"))) = .ok [] ∧
      bagFailures .none (lengthBag (lengthRule (.text "Infinity") .null)) = .ok []) ∧
    ∀ r ∈ [lengthRule (.text "1.5") (.text "1.5"), lengthRule (.text "Infinity") .null],
      (¬ ∃ s, Check.string (.text s) r = .ok []) ∧ ¬ ∃ xs, Check.array (.list xs) r = .ok [] := by
  have hhalf : bagFailures .none (lengthBag (lengthRule (.text "1.5") (.text "1.5"))) = .ok [] :=
    bagFailures_of_isEmpty (by decide +kernel)
  have hinfinity : bagFailures .none (lengthBag (lengthRule (.text "Infinity") .null)) = .ok [] :=
    bagFailures_of_isEmpty (by decide +kernel)
  refine ⟨⟨hhalf, hinfinity⟩, List.forall_mem_cons.2 ⟨?_, List.forall_mem_singleton.2 ?_⟩⟩
  · exact none_passes hhalf not_between_half
  · exact none_passes hinfinity not_between_infinity

end Definition

end Intake
