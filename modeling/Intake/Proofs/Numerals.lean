import Intake.Json.Reader
import Intake.Number.Notation
import Intake.Proofs.Shortest

/-! Numbers in JSON. An integer is read from its digits, and any other number from the shortest
digits that it is written with, wherever their point stands and whether they have an exponent or
not. -/

namespace Intake.Number

theorem ofDigits_eq (ds : List Char) : ofDigits ds = Nat.ofDigitChars 10 ds 0 := by
  unfold ofDigits digitValue
  rw [Nat.ofDigitChars_eq_foldl]
  simp only [Nat.mul_comm 10]

theorem ofDigits_append (xs ys : List Char) :
    ofDigits (xs ++ ys) = 10 ^ ys.length * ofDigits xs + ofDigits ys := by
  rw [ofDigits_eq, ofDigits_eq, ofDigits_eq, Nat.ofDigitChars_append,
    Nat.ofDigitChars_eq_ofDigitChars_zero]

@[simp] theorem ofDigits_toDigits (n : Nat) : ofDigits (Nat.toDigits 10 n) = n := by
  rw [ofDigits_eq, Nat.ofDigitChars_ten_toDigits]

@[simp] theorem ofDigits_zeros (n : Nat) : ofDigits (zeros n) = 0 := by
  rw [ofDigits_eq, zeros, Nat.ofDigitChars_replicate_zero, Nat.mul_zero]

def AreDigits (ds : List Char) : Prop := ∀ c ∈ ds, c.isDigit = true

theorem areDigits_toDigits (n : Nat) : AreDigits (Nat.toDigits 10 n) :=
  fun _ hc => Nat.isDigit_of_mem_toDigits (by decide) (by decide) hc

theorem areDigits_zeros (n : Nat) : AreDigits (zeros n) := by
  intro c hc
  rw [List.eq_of_mem_replicate hc]
  decide

@[simp] theorem areDigits_append_iff {xs ys : List Char} :
    AreDigits (xs ++ ys) ↔ AreDigits xs ∧ AreDigits ys := List.forall_mem_append

theorem head?_toDigits {n : Nat} (h : 0 < n) : (Nat.toDigits 10 n).head? ≠ some '0' := by
  induction n using Nat.strong_induction_on with
  | _ n ih =>
    rw [Nat.toDigits_eq_if (by decide)]
    split
    · intro heq
      have hzero := Nat.digitChar_eq_zero.1 (Option.some.inj heq)
      omega
    · rename_i hmany
      have hrest := ih (n / 10) (by omega) (by omega)
      cases hdigits : Nat.toDigits 10 (n / 10) with
      | nil => exact absurd hdigits Nat.toDigits_ne_nil
      | cons c cs =>
        rw [hdigits] at hrest
        exact hrest

end Intake.Number

namespace Intake.Json
open Number Binary64

def Ends (rest : List Char) : Prop :=
  ∀ c, rest.head? = some c → c.isDigit = false ∧ c ≠ '.' ∧ c ≠ 'e' ∧ c ≠ 'E'

/-- Digits that can stand before the point: they do not start with zero unless there is no other. -/
structure IsWhole (ds : List Char) : Prop where
  digits : AreDigits ds
  ne_nil : ds ≠ []
  leading : ds.head? = some '0' → ds = ['0']

def sign (negative : Bool) : List Char := if negative then ['-'] else []

section
variable {ds rest : List Char}

theorem takeWhile_digits (h : AreDigits ds) (hrest : ∀ c, rest.head? = some c → c.isDigit = false) :
    (ds ++ rest).takeWhile Char.isDigit = ds ∧ (ds ++ rest).dropWhile Char.isDigit = rest := by
  rw [List.takeWhile_append_of_pos h, List.dropWhile_append_of_pos h]
  cases rest with
  | nil => exact ⟨List.append_nil ds, rfl⟩
  | cons c rest =>
    have hc : ¬ c.isDigit = true := Bool.eq_false_iff.1 (hrest c rfl)
    rw [List.takeWhile_cons_of_neg hc, List.dropWhile_cons_of_neg hc]
    exact ⟨List.append_nil ds, rfl⟩

theorem splitFraction_point (h : AreDigits ds) (hne : ds ≠ [])
    (hrest : ∀ c, rest.head? = some c → c.isDigit = false) :
    splitFraction ('.' :: (ds ++ rest)) = (ds, rest) := by
  obtain ⟨htake, hdrop⟩ := takeWhile_digits h hrest
  have hsome : ds.isEmpty = false := List.isEmpty_eq_false_iff.2 hne
  unfold splitFraction
  simp only [htake, hdrop, hsome, Bool.false_eq_true, if_false]

theorem splitFraction_none (h : rest.head? ≠ some '.') : splitFraction rest = ([], rest) := by
  unfold splitFraction
  split
  · exact absurd rfl h
  · rfl

theorem splitExponent_sign (h : AreDigits ds) (hne : ds ≠ []) (negative : Bool)
    (hrest : ∀ c, rest.head? = some c → c.isDigit = false) :
    splitExponent ('e' :: (if negative then '-' else '+') :: (ds ++ rest)) =
      (some (signed negative (ofDigits ds)), rest) := by
  obtain ⟨htake, hdrop⟩ := takeWhile_digits h hrest
  have hsome : ds.isEmpty = false := List.isEmpty_eq_false_iff.2 hne
  cases negative
  all_goals
    unfold splitExponent
    simp only [readSign, htake, hdrop, hsome, BEq.rfl, Bool.true_or, Bool.false_eq_true, if_true,
      if_false]

theorem splitExponent_none (h : Ends rest) : splitExponent rest = (none, rest) := by
  cases rest with
  | nil => rfl
  | cons c rest =>
    obtain ⟨-, -, hlower, hupper⟩ := h c rfl
    unfold splitExponent
    simp only [beq_false_of_ne hlower, beq_false_of_ne hupper, Bool.or_self, Bool.false_eq_true,
      if_false]

end

theorem IsWhole.head_digit {ds : List Char} (h : IsWhole ds) :
    ∃ c cs, ds = c :: cs ∧ c.isDigit = true := by
  cases ds with
  | nil => exact absurd rfl h.ne_nil
  | cons c cs => exact ⟨c, cs, rfl, h.digits c List.mem_cons_self⟩

def wholeOf (cs : List Char) : List Char :=
  match cs with
  | '0' :: _ => ['0']
  | _ => cs.takeWhile Char.isDigit

theorem IsWhole.wholeOf_eq {ds rest : List Char} (h : IsWhole ds)
    (hrest : ∀ c, rest.head? = some c → c.isDigit = false) : wholeOf (ds ++ rest) = ds := by
  obtain ⟨c, cs, rfl, -⟩ := h.head_digit
  by_cases hzero : c = '0'
  · subst hzero
    exact (h.leading rfl).symm
  · unfold wholeOf
    split
    · rename_i heq
      exact absurd (List.cons.inj heq).1 hzero
    · exact (takeWhile_digits h.digits hrest).1

theorem head?_sign (negative : Bool) {ds : List Char} (h : IsWhole ds) (rest : List Char) :
    ((sign negative ++ (ds ++ rest)).head? == some '-') = negative := by
  cases negative with
  | true => rfl
  | false =>
    obtain ⟨c, cs, rfl, hc⟩ := h.head_digit
    have hne : c ≠ '-' := by
      rintro rfl
      exact absurd hc (by decide)
    exact beq_false_of_ne fun heq => hne (Option.some.inj heq)

theorem readNumber_eq (cs : List Char) : readNumber cs =
    let negative := cs.head? == some '-'
    let body := if negative then cs.drop 1 else cs
    let whole := wholeOf body
    if whole.isEmpty then halt .value cs
    else
      let (fraction, rest) := splitFraction (body.drop whole.length)
      let (exponent, rest) := splitExponent rest
      if fraction.isEmpty && exponent.isNone then
        if digitLimit < whole.length then .error (.longInteger whole.length)
        else .ok (.int (signed negative (ofDigits whole)), rest)
      else .ok (.float (Numeral.mk negative whole fraction (exponent.getD 0)).value, rest) := rfl

theorem readNumber_of_parts {whole tail rest rest' fraction : List Char} {exponent : Option Int}
    (negative : Bool) (h : IsWhole whole) (htail : ∀ c, tail.head? = some c → c.isDigit = false)
    (hfraction : splitFraction tail = (fraction, rest'))
    (hexponent : splitExponent rest' = (exponent, rest)) :
    readNumber (sign negative ++ (whole ++ tail)) =
      if fraction.isEmpty && exponent.isNone then
        if digitLimit < whole.length then .error (.longInteger whole.length)
        else .ok (.int (signed negative (ofDigits whole)), rest)
      else .ok (.float (Numeral.mk negative whole fraction (exponent.getD 0)).value, rest) := by
  have hbody : (if negative then (sign negative ++ (whole ++ tail)).drop 1
      else sign negative ++ (whole ++ tail)) = whole ++ tail := by
    cases negative <;> rfl
  have hsome : whole.isEmpty = false := List.isEmpty_eq_false_iff.2 h.ne_nil
  rw [readNumber_eq]
  simp only [head?_sign negative h, hbody, h.wholeOf_eq htail, hsome, List.drop_left, hfraction,
    hexponent, Bool.false_eq_true, if_false]

theorem readNumber_int (negative : Bool) {n : Nat} (hlimit : n < 10 ^ digitLimit) {rest : List Char}
    (hrest : Ends rest) :
    readNumber (sign negative ++ (Nat.toDigits 10 n ++ rest)) =
      .ok (.int (signed negative n), rest) := by
  have hwhole : IsWhole (Nat.toDigits 10 n) := by
    refine ⟨areDigits_toDigits n, Nat.toDigits_ne_nil, fun hhead => ?_⟩
    rcases Nat.eq_zero_or_pos n with rfl | hpos
    · rfl
    · exact absurd hhead (head?_toDigits hpos)
  have hfraction : splitFraction rest = ([], rest) :=
    splitFraction_none fun heq => (hrest '.' heq).2.1 rfl
  have hlength : ¬ digitLimit < (Nat.toDigits 10 n).length := by
    rw [not_lt]
    exact (Nat.length_toDigits_le_iff (by decide) (by decide)).2 hlimit
  rw [readNumber_of_parts negative hwhole (fun c hc => (hrest c hc).1) hfraction
    (splitExponent_none hrest), ofDigits_toDigits, if_neg hlength]
  rfl

/-- A text is read as a decimal of some value, with either sign and whatever follows. -/
def Spells (cs : List Char) (q : ℚ) : Prop :=
  (∃ c cs', cs = c :: cs' ∧ c.isDigit = true) ∧ ∀ negative rest, Ends rest → ∃ digits exponent,
    readNumber (sign negative ++ (cs ++ rest)) =
        .ok (.float (ofDecimal negative digits exponent), rest) ∧
      (digits : ℚ) * 10 ^ exponent = q

theorem spells_point {whole fraction : List Char} (h : IsWhole whole)
    (hfraction : AreDigits fraction)
    (hne : fraction ≠ []) :
    Spells (whole ++ '.' :: fraction)
      (ofDigits (whole ++ fraction) * 10 ^ (-(fraction.length : Int))) := by
  obtain ⟨c, cs, hcs, hc⟩ := h.head_digit
  refine ⟨⟨c, cs ++ '.' :: fraction, by rw [hcs, List.cons_append], hc⟩,
    fun negative rest hrest => ⟨_, _, ?_, rfl⟩⟩
  have hsome : fraction.isEmpty = false := List.isEmpty_eq_false_iff.2 hne
  have htail : ∀ c, ('.' :: (fraction ++ rest)).head? = some c → c.isDigit = false := by
    rintro _ ⟨⟩
    decide
  rw [List.append_assoc, List.cons_append,
    readNumber_of_parts negative h htail
      (splitFraction_point hfraction hne fun c hc => (hrest c hc).1) (splitExponent_none hrest),
        hsome, Bool.false_and, if_neg Bool.false_ne_true]
  rw [Numeral.value, Option.getD_none, zero_sub]

theorem spells_exponent {whole fraction ds : List Char} (h : IsWhole whole)
    (hfraction : AreDigits fraction) (hds : AreDigits ds) (hne : ds ≠ []) (negative : Bool) :
    Spells (whole ++ ((if fraction.isEmpty then [] else '.' :: fraction) ++
        'e' :: (if negative then '-' else '+') :: ds))
      (ofDigits (whole ++ fraction) * 10 ^ (signed negative (ofDigits ds) - fraction.length)) := by
  obtain ⟨c, cs, hcs, hc⟩ := h.head_digit
  refine ⟨⟨c, cs ++ _, by rw [hcs, List.cons_append], hc⟩,
    fun negative' rest hrest => ⟨_, _, ?_, rfl⟩⟩
  have hrest' : ∀ c, rest.head? = some c → c.isDigit = false := fun c hc => (hrest c hc).1
  have hexponent := splitExponent_sign hds hne negative hrest'
  have hpoint : splitFraction ((if fraction.isEmpty then [] else '.' :: fraction) ++
      'e' :: (if negative then '-' else '+') :: (ds ++ rest)) =
        (fraction, 'e' :: (if negative then '-' else '+') :: (ds ++ rest)) := by
    cases fraction with
    | nil => exact splitFraction_none (by simp)
    | cons d fraction => exact splitFraction_point hfraction (List.cons_ne_nil _ _) (by simp)
  have htail : ∀ d, ((if fraction.isEmpty then [] else '.' :: fraction) ++
      'e' :: (if negative then '-' else '+') :: (ds ++ rest)).head? = some d →
        d.isDigit = false := by
    cases fraction with
    | nil => rintro _ ⟨⟩; decide
    | cons d fraction => rintro _ ⟨⟩; decide
  rw [List.append_assoc, List.append_assoc, List.cons_append, List.cons_append,
    readNumber_of_parts negative' h htail hpoint hexponent, Option.isNone_some, Bool.and_false,
    if_neg Bool.false_ne_true]
  rfl

theorem isWhole_zero : IsWhole ['0'] := ⟨areDigits_zeros 1, List.cons_ne_nil _ _, fun _ => rfl⟩

structure IsLeading (ds : List Char) : Prop where
  digits : AreDigits ds
  ne_nil : ds ≠ []
  leading : ds.head? ≠ some '0'

namespace IsLeading
variable {ds : List Char}

theorem isWhole_append (h : IsLeading ds) {rest : List Char} (hrest : AreDigits rest) :
    IsWhole (ds ++ rest) := by
  obtain ⟨hdigits, hne, hleading⟩ := h
  cases ds with
  | nil => exact absurd rfl hne
  | cons c ds =>
    exact ⟨areDigits_append_iff.2 ⟨hdigits, hrest⟩, List.cons_ne_nil _ _,
      fun heq => absurd heq hleading⟩

theorem isWhole_take (h : IsLeading ds) {n : Nat} (hn : 0 < n) : IsWhole (ds.take n) := by
  obtain ⟨hdigits, hne, hleading⟩ := h
  cases ds with
  | nil => exact absurd rfl hne
  | cons c ds =>
    cases n with
    | zero => exact absurd hn (lt_irrefl 0)
    | succ n =>
      refine ⟨fun d hd => hdigits d (List.mem_of_mem_take hd), List.cons_ne_nil _ _, ?_⟩
      exact fun heq => absurd heq hleading

theorem areDigits_drop (h : IsLeading ds) (n : Nat) : AreDigits (ds.drop n) :=
  fun d hd => h.digits d (List.mem_of_mem_drop hd)

theorem spells_positional (h : IsLeading ds) (point : Int) :
    Spells (positional ds point) (ofDigits ds * 10 ^ (point - ds.length)) := by
  unfold positional
  dsimp only
  split_ifs with hpoint hlong
  · have hspells := spells_point isWhole_zero
      (areDigits_append_iff.2 ⟨areDigits_zeros (-point).toNat, h.digits⟩)
      (List.append_ne_nil_of_right_ne_nil _ h.ne_nil)
    have hvalue : ofDigits (['0'] ++ (zeros (-point).toNat ++ ds)) = ofDigits ds := by
      rw [ofDigits_append, ofDigits_append, ofDigits_zeros]
      simp [ofDigits, digitValue]
    have hexponent : -((zeros (-point).toNat ++ ds).length : Int) = point - ds.length := by
      rw [List.length_append, zeros, List.length_replicate]
      omega
    rwa [hvalue, hexponent] at hspells
  · have hspells := spells_point (h.isWhole_append (areDigits_zeros (point.toNat - ds.length)))
      (areDigits_zeros 1) (List.cons_ne_nil _ _)
    have hvalue : (ofDigits (ds ++ zeros (point.toNat - ds.length) ++ zeros 1) : ℚ) *
        10 ^ (-((zeros 1).length : Int)) = ofDigits ds * 10 ^ (point - ds.length) := by
      have hexponent : point - ds.length = (point.toNat - ds.length : Nat) := by omega
      have hlength : ∀ n, (zeros n).length = n := fun n => List.length_replicate
      rw [ofDigits_append, ofDigits_append, ofDigits_zeros, ofDigits_zeros, hlength, hlength,
        hexponent,
        zpow_neg, zpow_natCast, zpow_natCast]
      push_cast
      field_simp
      ring
    rwa [hvalue] at hspells
  · have hne : ds.drop point.toNat ≠ [] := by
      rw [Ne, List.drop_eq_nil_iff]
      exact hlong
    have hspells := spells_point (h.isWhole_take (n := point.toNat) (by omega))
      (h.areDigits_drop point.toNat) hne
    have hexponent : -((ds.drop point.toNat).length : Int) = point - ds.length := by
      rw [List.length_drop]
      omega
    rwa [List.take_append_drop, hexponent] at hspells

theorem spells_scientific (h : IsLeading ds) (point : Int) :
    Spells (scientific ds point) (ofDigits ds * 10 ^ (point - ds.length)) := by
  have hlength := List.length_pos_iff.2 h.ne_nil
  have hdigits : AreDigits
      (zeros (2 - (Nat.toDigits 10 (point - 1).natAbs).length) ++
        Nat.toDigits 10 (point - 1).natAbs) :=
    areDigits_append_iff.2 ⟨areDigits_zeros _, areDigits_toDigits _⟩
  have hspells := spells_exponent (h.isWhole_take one_pos) (h.areDigits_drop 1) hdigits
    (List.append_ne_nil_of_right_ne_nil _ Nat.toDigits_ne_nil) (point - 1 < 0)
  have hexponent : signed (point - 1 < 0) (ofDigits
      (zeros (2 - (Nat.toDigits 10 (point - 1).natAbs).length) ++
        Nat.toDigits 10 (point - 1).natAbs)) -
        (ds.drop 1).length = point - ds.length := by
    rw [ofDigits_append, ofDigits_zeros, ofDigits_toDigits, List.length_drop, Nat.mul_zero,
      Nat.zero_add]
    unfold signed
    split_ifs with hnegative
    · have hlt := of_decide_eq_true hnegative
      omega
    · have hge := of_decide_eq_false (Bool.eq_false_iff.2 hnegative)
      omega
  rw [List.take_append_drop, hexponent] at hspells
  have htext : scientific ds point =
      ds.take 1 ++ ((if (ds.drop 1).isEmpty then [] else '.' :: ds.drop 1) ++
        'e' :: (if decide (point - 1 < 0) then '-' else '+') ::
        (zeros (2 - (Nat.toDigits 10 (point - 1).natAbs).length) ++
          Nat.toDigits 10 (point - 1).natAbs)) := by
    have hsome : ((ds.drop 1).isEmpty = true) = (ds.length ≤ 1) := by
      rw [List.isEmpty_iff, List.drop_eq_nil_iff]
    unfold scientific
    simp only [hsome, decide_eq_true_eq, List.append_assoc, List.cons_append, List.nil_append]
  rw [htext]
  exact hspells

end IsLeading

theorem length_toDigits_eq {n count : Nat} (hfirst : 10 ^ (count - 1) ≤ n)
    (hcount : n < 10 ^ count) :
    (Nat.toDigits 10 n).length = count := by
  have hpos : 0 < n := (Nat.pow_pos (by decide)).trans_le hfirst
  have hsome : 0 < count := by
    rcases Nat.eq_zero_or_pos count with rfl | hsome
    · rw [pow_zero] at hcount
      omega
    · exact hsome
  obtain ⟨hlow, hhigh⟩ := digitCount_bounds hpos
  refine le_antisymm ((Nat.length_toDigits_le_iff (by decide) hsome).2 hcount) ?_
  by_contra! hless
  have hbound : 10 ^ digitCount n ≤ 10 ^ (count - 1) :=
    Nat.pow_le_pow_right (by decide) (Nat.le_sub_one_of_lt hless)
  omega

theorem spells_magnitude {m : Nat} {e : Int} (h : IsNormal m e) (hpos : 0 < m) :
    Spells (magnitude m e) (shortest m e).value := by
  obtain ⟨-, hfirst, hcount⟩ := shortest_gives h hpos
  have hdigits : 0 < (shortest m e).digits := (Nat.pow_pos (by decide)).trans_le hfirst
  have hleading : IsLeading (Nat.toDigits 10 (shortest m e).digits) :=
    ⟨areDigits_toDigits _, Nat.toDigits_ne_nil, head?_toDigits hdigits⟩
  have hpositional := hleading.spells_positional (shortest m e).point
  have hscientific := hleading.spells_scientific (shortest m e).point
  rw [ofDigits_toDigits, length_toDigits_eq hfirst hcount] at hpositional hscientific
  unfold magnitude
  rw [if_neg (by simpa using hpos.ne')]
  dsimp only
  split_ifs
  · exact hpositional
  · exact hscientific

theorem exists_digit_magnitude {s : Bool} {m : Nat} {e : Int} (h : (finite s m e).IsCanonical) :
    ∃ c cs, magnitude m e = c :: cs ∧ c.isDigit = true := by
  obtain ⟨hfew, hleast, -, hmany⟩ := h
  rcases Nat.eq_zero_or_pos m with rfl | hpos
  · exact ⟨'0', _, rfl, rfl⟩
  · exact (spells_magnitude ⟨hfew, hleast, hmany⟩ hpos).1

theorem readNumber_magnitude {m : Nat} {e : Int} (s : Bool) (h : (finite s m e).IsCanonical)
    {rest : List Char} (hrest : Ends rest) :
    readNumber (sign s ++ (magnitude m e ++ rest)) = .ok (.float (.finite s m e), rest) := by
  obtain ⟨hfew, hleast, hmax, hmany⟩ := h
  rcases Nat.eq_zero_or_pos m with rfl | hpos
  · obtain rfl := hmany.resolve_left (by decide)
    obtain ⟨digits, exponent, hread, hvalue⟩ :=
      (spells_point isWhole_zero (areDigits_zeros 1) (List.cons_ne_nil _ _)).2 s rest hrest
    have hzero : digits = 0 := by
      have hnone : ofDigits (['0'] ++ zeros 1) = 0 := ofDigits_zeros 2
      rw [hnone, Nat.cast_zero, zero_mul, mul_eq_zero] at hvalue
      exact Nat.cast_eq_zero.1 (hvalue.resolve_right (ten_zpow_pos exponent).ne')
    rw [hzero] at hread
    exact hread
  · have hnormal : IsNormal m e := ⟨hfew, hleast, hmany⟩
    obtain ⟨digits, exponent, hread, hvalue⟩ := (spells_magnitude hnormal hpos).2 s rest hrest
    have hnear := (shortest_gives hnormal hpos).near
    rw [← hvalue] at hnear
    rw [hread, hnear.ofDecimal_eq hnormal hmax hpos s]

end Intake.Json
