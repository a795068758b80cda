import Intake.Check.Phone
import Intake.Proofs.Addresses
import Intake.Proofs.Dates

/-! Phone numbers. What the check says about a value depends on the ASCII digits of its text alone,
in their order. Taking points, signs, dashes and blanks out of a number leaves all of them, so that
the check says the same before and after. The digits that pass are those that a pattern matches from
end to end. -/

namespace Intake

namespace Phone
open Email (classOf digits_holds_iff itself mem_itself_iff)

def IsNumber (ds : List Char) : Prop := ∃ rest, rest.length = 10 ∧ (ds = rest ∨ ds = '1' :: rest)

@[simp] theorem isNumber_iff {ds : List Char} : isNumber ds = true ↔ IsNumber ds := by
  unfold isNumber IsNumber
  rw [Bool.or_eq_true, Bool.and_eq_true, beq_iff_eq, beq_iff_eq, beq_iff_eq]
  constructor
  · rintro (hten | ⟨heleven, hone⟩)
    · exact ⟨ds, hten, .inl rfl⟩
    · obtain ⟨rest, rfl⟩ := List.head?_eq_some_iff.1 hone
      exact ⟨rest, Nat.succ.inj heleven, .inr rfl⟩
  · rintro ⟨rest, hten, rfl | rfl⟩
    · exact .inl hten
    · exact .inr ⟨congrArg Nat.succ hten, rfl⟩

theorem IsNumber.ne_nil {ds : List Char} (h : IsNumber ds) : ds ≠ [] := by
  obtain ⟨rest, hten, hds⟩ := h
  have hne : rest ≠ [] := by
    rintro rfl
    cases hten
  rcases hds with rfl | rfl
  · exact hne
  · exact List.cons_ne_nil _ _

theorem isDigit_of_mem_digitsOf {s : String} {d : Char} (h : d ∈ digitsOf s) : d.isDigit = true :=
  (List.mem_filter.1 h).2

theorem isNoise_of_isDigit {c : Char} (h : c.isDigit = true) : isNoise c = false := by
  have hblank : Text.isBlank c = false := Text.isBlank_of_isDigit h
  have hne : ∀ mark : Char, mark.isDigit = false → (c == mark) = false := by
    intro mark hmark
    rw [beq_eq_false_iff_ne]
    rintro rfl
    exact Bool.false_ne_true (hmark.symm.trans h)
  unfold isNoise
  rw [hne '.' rfl, hne '+' rfl, hne '-' rfl, hblank]
  rfl

@[simp] theorem digitsOf_quiet (s : String) :
    digitsOf (String.ofList (s.toList.filter (!isNoise ·))) = digitsOf s := by
  unfold digitsOf
  rw [String.toList_ofList, List.filter_filter]
  apply List.filter_congr
  intro c _
  cases hdigit : c.isDigit with
  | false => rfl
  | true => rw [isNoise_of_isDigit hdigit]; rfl

def patternText : String := "^1?[0-9]\x7b10\x7d$"

def countryCode : Pattern := .repetition 0 (some 1) .greedy (itself '1')

def tenDigits : Pattern := .repetition 10 (some 10) .greedy (.one (classOf [(48, 57)]))

def pattern : Pattern :=
  .seq (.anchor .textStart) (.seq countryCode (.seq tenDigits (.anchor .lastLineEnd)))

theorem read_patternText : Pattern.read names true patternText.toList = .ok pattern := by
  cbv

@[simp] theorem mem_countryCode_iff {xs : List Char} :
    xs ∈ countryCode.language ↔ xs = [] ∨ xs = ['1'] :=
  Pattern.mem_optionally_iff.trans (or_congr_right mem_itself_iff)

@[simp] theorem mem_tenDigits_iff {xs : List Char} :
    xs ∈ tenDigits.language ↔ xs.length = 10 ∧ ∀ x ∈ xs, x.isDigit = true := by
  unfold tenDigits
  simp only [Pattern.mem_counted_class_iff, digits_holds_iff, Option.mem_some, forall_eq',
    ← and_assoc]
  rw [← le_antisymm_iff, eq_comm]

theorem fills_pattern_iff {ds : List Char} (hdigits : ∀ d ∈ ds, d.isDigit = true) :
    pattern.fills ds = true ↔ IsNumber ds := by
  have hregular : (Pattern.seq countryCode tenDigits).IsRegular :=
    ⟨Pattern.isRegular_counted_class _ (by simp), Pattern.isRegular_counted_class _ (by simp)⟩
  have hfills : pattern.fills ds = true ↔ ds ∈ (Pattern.seq countryCode tenDigits).language :=
    Pattern.run_to_end_isSome_iff hregular (Pattern.lastLineEnd_isSome_iff ds)
  rw [hfills, Pattern.mem_seq_iff]
  unfold IsNumber
  constructor
  · rintro ⟨code, hcode, rest, hrest, rfl⟩
    refine ⟨rest, (mem_tenDigits_iff.1 hrest).1, ?_⟩
    rcases mem_countryCode_iff.1 hcode with rfl | rfl
    · exact .inl rfl
    · exact .inr rfl
  · rintro ⟨rest, hten, rfl | rfl⟩
    · exact ⟨[], mem_countryCode_iff.2 (.inl rfl), ds, mem_tenDigits_iff.2 ⟨hten, hdigits⟩, rfl⟩
    · rw [List.forall_mem_cons] at hdigits
      exact ⟨['1'], mem_countryCode_iff.2 (.inr rfl), rest, mem_tenDigits_iff.2 ⟨hten, hdigits.2⟩,
        rfl⟩

end Phone

namespace Check
open Phone

def numberMessages (countries : Value) (ds : List Char) : List String :=
  if isNumber ds then []
  else List.replicate (countryCount countries)
    s!"Input \"{String.ofList ds}\" does not appear to be a valid phone number."

theorem countryCount_pos (countries : Value) : 0 < countryCount countries := by
  cases countries with
  | list xs => cases xs with
    | nil => exact Nat.one_pos
    | cons x xs => exact Nat.succ_pos _
  | _ => exact Nat.one_pos

@[simp] theorem numberMessages_eq_nil_iff {countries : Value} {ds : List Char} :
    numberMessages countries ds = [] ↔ IsNumber ds := by
  rw [← isNumber_iff]
  unfold numberMessages
  split
  · rename_i hnumber
    exact iff_of_true rfl hnumber
  · rename_i hnumber
    refine iff_of_false ?_ hnumber
    rw [List.replicate_eq_nil_iff]
    exact (countryCount_pos countries).ne'

theorem phone_of_truthy {value : Value} (h : value.truthy = true) (countries : Value) :
    phone value countries = (fun s => numberMessages countries (digitsOf s)) <$> value.written := by
  unfold phone
  rw [h, map_eq_pure_bind]
  rfl

theorem phone_of_not_truthy {value : Value} (h : value.truthy = false) (countries : Value) :
    phone value countries = .ok ["No phone number provided to validate."] := by
  unfold phone
  rw [h]
  rfl

theorem phone_eq_nil_iff {value countries : Value} : phone value countries = .ok [] ↔
    value.truthy = true ∧ ∃ s, value.written = .ok s ∧ IsNumber (digitsOf s) := by
  cases ht : value.truthy with
  | false =>
    rw [phone_of_not_truthy ht]
    exact iff_of_false (by simp) (by simp)
  | true =>
    rw [phone_of_truthy ht, and_iff_right rfl]
    cases value.written with
    | error f => exact iff_of_false (by simp) (by simp)
    | ok s =>
      have hok : (fun s => numberMessages countries (digitsOf s)) <$>
          (Except.ok s : Except Fault String) = .ok (numberMessages countries (digitsOf s)) := rfl
      simp only [hok, Except.ok.injEq, numberMessages_eq_nil_iff, exists_eq_left']

@[simp] theorem phone_text_eq_nil_iff {s : String} {countries : Value} :
    phone (.text s) countries = .ok [] ↔ IsNumber (digitsOf s) := by
  have hwritten : (Value.text s).written = .ok s := rfl
  have htruthy : IsNumber (digitsOf s) → (Value.text s).truthy = true := by
    intro h
    refine bne_iff_ne.2 ?_
    rintro rfl
    exact h.ne_nil rfl
  rw [phone_eq_nil_iff, hwritten]
  simp only [Except.ok.injEq, exists_eq_left']
  exact and_iff_right_of_imp htruthy

theorem truthy_of_written_error {value : Value} {f : Fault} (h : value.written = .error f) :
    value.truthy = true := by
  cases hwritable : value.isWritable with
  | false => exact truthy_of_unwritable hwritable
  | true =>
    rw [Value.written_eq hwritable] at h
    cases h

/-- The check ends in a fault only where the value has no text. -/
theorem phone_eq_error_iff {value countries : Value} {f : Fault} :
    phone value countries = .error f ↔ value.written = .error f := by
  cases ht : value.truthy with
  | false =>
    rw [phone_of_not_truthy ht]
    refine iff_of_false (by simp) fun h => ?_
    exact Bool.false_ne_true (ht.symm.trans (truthy_of_written_error h))
  | true =>
    rw [phone_of_truthy ht]
    cases value.written <;> simp

theorem normalize_eq_ok_iff {value : Value} {n : Option String} : Phone.normalize value = .ok n ↔
    value.truthy = false ∧ n = none ∨ value.truthy = true ∧
      ∃ s, value.written = .ok s ∧ n = some (String.ofList (s.toList.filter (!isNoise ·))) := by
  unfold Phone.normalize
  cases value.truthy with
  | false => simp [eq_comm]
  | true => cases value.written <;> simp [bind, Except.bind, pure, Except.pure, eq_comm]

theorem phone_normalize_iff {value countries : Value} : phone value countries = .ok [] ↔
    ∃ n, Phone.normalize value = .ok n ∧
      phone ((n.map Value.text).getD .null) countries = .ok [] := by
  cases ht : value.truthy with
  | false =>
    have hnull : phone .null countries = .ok ["No phone number provided to validate."] :=
      phone_of_not_truthy rfl countries
    simp [normalize_eq_ok_iff, phone_of_not_truthy ht, hnull, ht]
  | true =>
    rw [phone_eq_nil_iff]
    simp [normalize_eq_ok_iff, ht]

/-- The verdict on a value hangs on the ASCII digits of its text alone. A value passes where it is
given and has a text whose digits are ten, or the digit one and ten; and these are the digits that a
pattern matches. Two values with the same digits get the same messages, and a value passes exactly
where it does when it has been cleaned. Only what has no text ends in a fault. -/
theorem phone_judges_digits (names : Pattern.Names) (value countries : Value) :
    (phone value countries = .ok [] ↔
      value.truthy = true ∧ ∃ s, value.written = .ok s ∧ IsNumber (digitsOf s)) ∧
    (∃ p, Pattern.read names true patternText.toList = .ok p ∧ ∀ s, value.written = .ok s →
      (IsNumber (digitsOf s) ↔ p.fills (digitsOf s) = true)) ∧
    (∀ f, phone value countries = .error f ↔ value.written = .error f) ∧
    (∀ other s t, value.truthy = true → other.truthy = true → value.written = .ok s →
      other.written = .ok t → digitsOf s = digitsOf t →
        phone value countries = phone other countries) ∧
    (phone value countries = .ok [] ↔ ∃ n, Phone.normalize value = .ok n ∧
      phone ((n.map Value.text).getD .null) countries = .ok []) := by
  refine ⟨phone_eq_nil_iff, ⟨pattern, read_patternText, fun s _ => ?_⟩,
    fun f => phone_eq_error_iff, fun other s t hvalue hother hs ht hdigits => ?_,
    phone_normalize_iff⟩
  · exact (fills_pattern_iff fun d hd => isDigit_of_mem_digitsOf hd).symm
  · rw [phone_of_truthy hvalue, phone_of_truthy hother, hs, ht]
    show Except.ok (numberMessages countries (digitsOf s)) =
      Except.ok (numberMessages countries (digitsOf t))
    rw [hdigits]

/-- A number with a sign, brackets and blanks, the same number as an integer, and what is left of
the first when it is cleaned. -/
theorem phone_judges_digits_spelled :
    (Value.text "+1 (555) 123-4567").written = .ok "+1 (555) 123-4567" ∧
      (Value.int 15551234567).written = .ok "15551234567" ∧
      digitsOf "+1 (555) 123-4567" = digitsOf "15551234567" ∧
      phone (.text "+1 (555) 123-4567") .null = .ok [] ∧ phone (.int 15551234567) .null = .ok [] ∧
      Phone.normalize (.text "+1 (555) 123-4567") = .ok (some "1(555)1234567") ∧
      phone (.text "1(555)1234567") .null = .ok [] := by
  obtain ⟨hpasses, -, -, hsame, hclean⟩ :=
    phone_judges_digits .none (.text "+1 (555) 123-4567") .null
  have hwritable : (Value.int 15551234567).isWritable = true := by decide +kernel
  have hdisplay : (Value.int 15551234567).display = "15551234567" := by decide +kernel
  have hwritten : (Value.int 15551234567).written = .ok "15551234567" := by
    rw [Value.written_eq hwritable, hdisplay]
  have hdigits : digitsOf "+1 (555) 123-4567" = digitsOf "15551234567" := by decide +kernel
  have hnumber : IsNumber (digitsOf "+1 (555) 123-4567") := isNumber_iff.1 (by decide +kernel)
  have hspelled := hpasses.2 ⟨by decide, _, rfl, hnumber⟩
  have hcleaned : Phone.normalize (.text "+1 (555) 123-4567") = .ok (some "1(555)1234567") :=
    normalize_eq_ok_iff.2 (.inr ⟨by decide, _, rfl, congrArg some (by decide +kernel)⟩)
  have hinteger := hsame (.int 15551234567) _ _ (by decide) (by decide) rfl hwritten hdigits
  obtain ⟨n, hn, hagain⟩ := hclean.1 hspelled
  rw [hcleaned] at hn
  obtain rfl := Except.ok.inj hn
  exact ⟨rfl, hwritten, hdigits, hspelled, hinteger.symm.trans hspelled, hcleaned, hagain⟩

end Check

end Intake
