import Intake.Check.Age
import Intake.Proofs.Milliseconds
import Mathlib.Tactic.IntervalCases

/-! The spellings of a date. The ISO form, month, day and year between slashes, year, month and day
between slashes and any milliseconds of the day all stand for it; no reader that is asked earlier
takes a text for another date. -/

namespace Intake

namespace Text

theorem dropWhile_isBlank_append {blanks cs : List Char} (hblanks : ∀ c ∈ blanks, isBlank c = true)
    (hcs : ∀ c ∈ cs, isBlank c = false) (hne : cs ≠ []) (rest : List Char) :
    (blanks ++ (cs ++ rest)).dropWhile isBlank = cs ++ rest := by
  obtain ⟨c, cs', rfl⟩ := List.exists_cons_of_ne_nil hne
  rw [List.dropWhile_append_of_pos hblanks, List.cons_append, List.dropWhile_cons_of_neg]
  simp [hcs c List.mem_cons_self]

theorem trim_append {before cs after : List Char} (hbefore : ∀ c ∈ before, isBlank c = true)
    (hafter : ∀ c ∈ after, isBlank c = true) (hcs : ∀ c ∈ cs, isBlank c = false) (hne : cs ≠ []) :
    trim (before ++ cs ++ after) = cs := by
  have hreverse := @dropWhile_isBlank_append after.reverse cs.reverse
    (by simpa using hafter) (by simpa using hcs) (by simpa using hne) []
  unfold trim
  rw [List.append_assoc, dropWhile_isBlank_append hbefore hcs hne, List.reverse_append,
    ← List.append_nil cs.reverse, hreverse, List.append_nil, List.reverse_reverse]

theorem isBlank_of_isDigit {c : Char} (h : c.isDigit = true) : isBlank c = false := by
  obtain ⟨hlow, hhigh⟩ : 48 ≤ c.toNat ∧ c.toNat ≤ 57 := Char.isDigit_iff_toNat.1 h
  simp only [isBlank, Bool.or_eq_false_iff, Bool.and_eq_false_iff, decide_eq_false_iff_not,
    beq_eq_false_iff_ne]
  omega

theorem decimalDigit?_of_isDigit {c : Char} (h : c.isDigit = true) :
    decimalDigit? c = some (c.toNat - 48) := by
  obtain ⟨hlow, hhigh⟩ : 48 ≤ c.toNat ∧ c.toNat ≤ 57 := Char.isDigit_iff_toNat.1 h
  unfold decimalDigit? decimalZeros
  rw [List.find?_cons_of_pos]
  · rfl
  · rw [Bool.and_eq_true, decide_eq_true_eq, decide_eq_true_eq]
    omega

end Text

namespace Calendar

structure Writes (width n : Nat) (ds : List Char) : Prop where
  length : ds.length = width
  digits : ∀ c ∈ ds, c.isDigit = true
  value : Nat.ofDigitChars 10 ds 0 = n

theorem padded_writes {width n : Nat} (hwidth : 0 < width) (h : n < 10 ^ width) :
    Writes width n (Date.padded width n).toList := by
  have hlength := (Nat.length_toDigits_le_iff (by decide) hwidth).2 h
  unfold Date.padded
  dsimp only
  rw [String.toList_ofList]
  refine ⟨?_, fun c hc => ?_, ?_⟩
  · rw [List.length_append, List.length_replicate]
    omega
  · rcases List.mem_append.1 hc with hzero | hdigit
    · rw [List.eq_of_mem_replicate hzero]
      rfl
    · exact Nat.isDigit_of_mem_toDigits (by decide) (by decide) hdigit
  · rw [Nat.ofDigitChars_append, Nat.ofDigitChars_replicate_zero, Nat.mul_zero,
      Nat.ofDigitChars_ten_toDigits]

namespace Writes
variable {width n : Nat} {ds : List Char}

theorem ne_nil (h : Writes width n ds) (hwidth : 0 < width) : ds ≠ [] := by
  rintro rfl
  exact absurd h.length hwidth.ne

theorem slash_notMem (h : Writes width n ds) : '/' ∉ ds := fun hmem =>
  absurd (h.digits '/' hmem) (by decide)

theorem digits?_append {ds : List Char} (h : ∀ c ∈ ds, c.isDigit = true) (n : Nat)
    (rest : List Char) :
    Iso.digits? ds.length n (ds ++ rest) = some (Nat.ofDigitChars 10 ds n, rest) := by
  induction ds generalizing n with
  | nil => rfl
  | cons c ds ih =>
    rw [List.forall_mem_cons] at h
    have hc : Iso.digit? c = some (c.toNat - 48) := by
      simp [Iso.digit?, h.1]
    rw [Nat.ofDigitChars_cons, Nat.mul_comm 10 n]
    show (Iso.digit? c).bind (fun d => Iso.digits? ds.length (n * 10 + d) (ds ++ rest)) = _
    rw [hc]
    exact ih h.2 _

theorem read (h : Writes width n ds) (rest : List Char) :
    Iso.digits? width 0 (ds ++ rest) = some (n, rest) := by
  rw [← h.length, digits?_append h.digits, h.value]

theorem year?_eq (h : Writes 4 n ds) : Slashed.year? ds = some n := by
  have hfold : ∀ cs : List Char, (∀ c ∈ cs, c.isDigit = true) → ∀ k,
      cs.foldlM (fun n c => (Text.decimalDigit? c).map (n * 10 + ·)) k =
        some (Nat.ofDigitChars 10 cs k) := by
    intro cs
    induction cs with
    | nil => exact fun _ _ => rfl
    | cons c cs ih =>
      intro hcs k
      rw [List.forall_mem_cons] at hcs
      rw [List.foldlM_cons, Text.decimalDigit?_of_isDigit hcs.1, Nat.ofDigitChars_cons,
        Nat.mul_comm 10 k]
      exact ih hcs.2 _
  unfold Slashed.year?
  rw [if_pos (by simp [h.length]), hfold ds h.digits, h.value]

theorem year?_eq_none (h : Writes width n ds) (hwidth : width ≠ 4) : Slashed.year? ds = none := by
  unfold Slashed.year?
  rw [if_neg (by simp [h.length, hwidth])]

end Writes

theorem month?_padded {month : Nat} (hpos : 1 ≤ month) (hle : month ≤ 12) :
    Slashed.month? (Date.padded 2 month).toList = some month := by
  interval_cases month <;> rfl

theorem day?_padded {day : Nat} (hpos : 1 ≤ day) (hle : day ≤ 31) :
    Slashed.day? (Date.padded 2 day).toList = some day := by
  interval_cases day <;> rfl

theorem parts_eq_splitOn (cs : List Char) : Slashed.parts cs = cs.splitOn '/' := by
  induction cs with
  | nil => rfl
  | cons c cs ih =>
    unfold Slashed.parts
    rw [ih, List.splitOn_cons_eq_if_modifyHead]
    split
    · rfl
    · cases h : cs.splitOn '/' with
      | nil => exact absurd h (List.splitOn_ne_nil _ _)
      | cons p ps => rfl

theorem parts_of_three {a b c : List Char} (ha : '/' ∉ a) (hb : '/' ∉ b) (hc : '/' ∉ c) :
    Slashed.parts (a ++ '/' :: (b ++ '/' :: c)) = [a, b, c] := by
  rw [parts_eq_splitOn, List.splitOn_append_cons_self_of_not_mem ha,
    List.splitOn_append_cons_self_of_not_mem hb, List.splitOn_eq_singleton hc]

theorem digits?_eq_none {ds : List Char} (h : ∀ c ∈ ds, c.isDigit = true) {c : Char}
    (hc : c.isDigit = false) {count : Nat} (hcount : ds.length < count) (n : Nat)
    (rest : List Char) : Iso.digits? count n (ds ++ c :: rest) = none := by
  obtain ⟨k, rfl⟩ := Nat.exists_eq_add_of_lt hcount
  induction ds generalizing n with
  | nil =>
    show (Iso.digit? c).bind _ = none
    simp [Iso.digit?, hc]
  | cons d ds ih =>
    rw [List.forall_mem_cons] at h
    rw [List.length_cons, Nat.succ_add, Nat.succ_add]
    show (Iso.digit? d).bind _ = none
    simp only [Iso.digit?, h.1, if_true, Option.bind_some]
    exact ih h.2 _ (by omega)

namespace Date

def writeMonthFirst (d : Date) : String :=
  padded 2 d.month ++ "/" ++ padded 2 d.day ++ "/" ++ padded 4 d.year

def writeYearFirst (d : Date) : String :=
  padded 4 d.year ++ "/" ++ padded 2 d.month ++ "/" ++ padded 2 d.day

variable (d : Date)

theorem day_le_31 : d.day ≤ 31 := by
  have hday := d.day_le
  unfold daysIn at hday
  split_ifs at hday <;> omega

theorem writes_year : Writes 4 d.year (padded 4 d.year).toList :=
  padded_writes (by decide) (Nat.lt_succ_of_le d.year_le)

theorem writes_month : Writes 2 d.month (padded 2 d.month).toList :=
  padded_writes (by decide) (by have := d.month_le; omega)

theorem writes_day : Writes 2 d.day (padded 2 d.day).toList :=
  padded_writes (by decide) (by have := d.day_le_31; omega)

theorem toList_write : d.write.toList = (padded 4 d.year).toList ++
    '-' :: ((padded 2 d.month).toList ++ '-' :: (padded 2 d.day).toList) := by
  simp [write, String.toList_append]

theorem toList_writeMonthFirst : d.writeMonthFirst.toList = (padded 2 d.month).toList ++
    '/' :: ((padded 2 d.day).toList ++ '/' :: (padded 4 d.year).toList) := by
  simp [writeMonthFirst, String.toList_append]

theorem toList_writeYearFirst : d.writeYearFirst.toList = (padded 4 d.year).toList ++
    '/' :: ((padded 2 d.month).toList ++ '/' :: (padded 2 d.day).toList) := by
  simp [writeYearFirst, String.toList_append]

@[simp] theorem moment?_write : Iso.moment? d.write.toList = some ⟨d, 0, 0, 0, 0, none⟩ := by
  obtain ⟨a, as, hmonth⟩ := List.exists_cons_of_ne_nil (d.writes_month.ne_nil (by decide))
  have ha : a ≠ 'W' := by
    rintro rfl
    exact absurd (d.writes_month.digits 'W' (hmonth ▸ List.mem_cons_self)) (by decide)
  have hrest := d.writes_month.read ('-' :: (padded 2 d.day).toList)
  have hday := d.writes_day.read []
  rw [List.append_nil] at hday
  have hdate : Iso.date? d.write.toList = some (d, []) := by
    rw [toList_write]
    unfold Iso.date?
    rw [d.writes_year.read]
    rw [hmonth, List.cons_append] at hrest ⊢
    simp [ha, hrest, hday]
  simp [Iso.moment?, hdate]

@[simp] theorem moment?_writeMonthFirst : Iso.moment? d.writeMonthFirst.toList = none := by
  have hyear : Iso.digits? 4 0 d.writeMonthFirst.toList = none := by
    rw [toList_writeMonthFirst]
    exact digits?_eq_none d.writes_month.digits rfl (by rw [d.writes_month.length]; decide) 0 _
  simp [Iso.moment?, Iso.date?, hyear]

@[simp] theorem moment?_writeYearFirst : Iso.moment? d.writeYearFirst.toList = none := by
  have hdate : Iso.date? d.writeYearFirst.toList = none := by
    rw [toList_writeYearFirst]
    unfold Iso.date?
    rw [d.writes_year.read]
    rfl
  simp [Iso.moment?, hdate]

@[simp]
theorem monthFirst?_writeMonthFirst : Slashed.monthFirst? d.writeMonthFirst.toList = some d := by
  unfold Slashed.monthFirst?
  rw [toList_writeMonthFirst, parts_of_three d.writes_month.slash_notMem d.writes_day.slash_notMem
    d.writes_year.slash_notMem]
  simp [d.writes_year.year?_eq, month?_padded d.month_pos d.month_le,
    day?_padded d.day_pos d.day_le_31]

@[simp]
theorem monthFirst?_writeYearFirst : Slashed.monthFirst? d.writeYearFirst.toList = none := by
  unfold Slashed.monthFirst?
  rw [toList_writeYearFirst, parts_of_three d.writes_year.slash_notMem d.writes_month.slash_notMem
    d.writes_day.slash_notMem]
  simp [d.writes_day.year?_eq_none (by decide)]

@[simp]
theorem yearFirst?_writeYearFirst : Slashed.yearFirst? d.writeYearFirst.toList = some d := by
  unfold Slashed.yearFirst?
  rw [toList_writeYearFirst, parts_of_three d.writes_year.slash_notMem d.writes_month.slash_notMem
    d.writes_day.slash_notMem]
  simp [d.writes_year.year?_eq, month?_padded d.month_pos d.month_le,
    day?_padded d.day_pos d.day_le_31]

end Date

end Calendar

open Calendar

def Calendar.Date.texts (d : Date) : List String := [d.write, d.writeMonthFirst, d.writeYearFirst]

theorem isBlank_of_writes {l m n a b c : Nat} {x y z : List Char} (hx : Writes l a x)
    (hy : Writes m b y) (hz : Writes n c z) {separator : Char}
    (hseparator : Text.isBlank separator = false) :
    ∀ d ∈ x ++ separator :: (y ++ separator :: z), Text.isBlank d = false := by
  intro d hd
  simp only [List.mem_append, List.mem_cons] at hd
  rcases hd with hd | rfl | hd | rfl | hd
  · exact Text.isBlank_of_isDigit (hx.digits d hd)
  · exact hseparator
  · exact Text.isBlank_of_isDigit (hy.digits d hd)
  · exact hseparator
  · exact Text.isBlank_of_isDigit (hz.digits d hd)

theorem isBlank_of_mem_texts {d : Date} {t : String} (ht : t ∈ d.texts) :
    t.toList ≠ [] ∧ ∀ c ∈ t.toList, Text.isBlank c = false := by
  simp only [Date.texts, List.mem_cons, List.not_mem_nil, or_false] at ht
  rcases ht with rfl | rfl | rfl
  · rw [Date.toList_write]
    exact ⟨by simp, isBlank_of_writes d.writes_year d.writes_month d.writes_day rfl⟩
  · rw [Date.toList_writeMonthFirst]
    exact ⟨by simp, isBlank_of_writes d.writes_month d.writes_day d.writes_year rfl⟩
  · rw [Date.toList_writeYearFirst]
    exact ⟨by simp, isBlank_of_writes d.writes_year d.writes_month d.writes_day rfl⟩

theorem dateOfText?_eq {d : Date} {t : String} (ht : t ∈ d.texts) {before after : String}
    (hbefore : ∀ c ∈ before.toList, Text.isBlank c = true)
    (hafter : ∀ c ∈ after.toList, Text.isBlank c = true) :
    dateOfText? (before ++ t ++ after).toList = some d := by
  obtain ⟨hne, hinked⟩ := isBlank_of_mem_texts ht
  have htrim : Text.trim (before ++ t ++ after).toList = t.toList := by
    rw [String.toList_append, String.toList_append, Text.trim_append hbefore hafter hinked hne]
  unfold dateOfText?
  dsimp only
  rw [htrim]
  simp only [Date.texts, List.mem_cons, List.not_mem_nil, or_false] at ht
  rcases ht with rfl | rfl | rfl
  · rw [Date.moment?_write]
    rfl
  · rw [Date.moment?_writeMonthFirst, Date.monthFirst?_writeMonthFirst]
    rfl
  · rw [Date.moment?_writeYearFirst, Date.monthFirst?_writeYearFirst,
      Date.yearFirst?_writeYearFirst]
    rfl

namespace Value

theorem toDate_int_of_isInfinite {n : Int} (h : (Number.Binary64.ofInt n).isInfinite = true) :
    (Value.int n).toDate = .error .integerTooLarge := by
  have hnumber : (Value.int n).isNumber = .error .integerTooLarge := by
    unfold isNumber
    dsimp only
    rw [if_pos h]
  unfold toDate
  dsimp only
  rw [hnumber]
  rfl

theorem toDate_int {n : Int} (h : (Number.Binary64.ofInt n).isInfinite = false) :
    (Value.int n).toDate = .ok (Date.ofEpochDay? (Int.fdiv n 86400000)) := by
  have hnumber : (Value.int n).isNumber = .ok true := by
    unfold isNumber
    dsimp only
    rw [if_neg (by simp [h])]
  have hmillis := dateOfMillis?_int (Number.Binary64.abs_lt_overflow_of_finite h)
  unfold toDate
  dsimp only
  rw [hnumber, Int.fdiv_eq_ediv_of_nonneg _ (by decide), ← hmillis]
  rfl

/-- Every form of a date in text, with blanks around it, and all milliseconds of its day are read as
that date. Other milliseconds that are read at all are no date. -/
theorem toDate_agrees {epoch : Date} (hepoch : Date.of? 1970 1 1 = some epoch) :
    (∀ d : Date, ∀ t ∈ d.texts, ∀ before after : String,
      (∀ c ∈ before.toList, Text.isBlank c = true) → (∀ c ∈ after.toList, Text.isBlank c = true) →
        (Value.text (before ++ t ++ after)).toDate = .ok (some d)) ∧
    (∀ (d : Date) (n : Int), Int.fdiv n 86400000 = d.number - epoch.number →
      (Value.int n).toDate = .ok (some d)) ∧
    ∀ (n : Int) (r : Option Date), (∀ d : Date, Int.fdiv n 86400000 ≠ d.number - epoch.number) →
      (Value.int n).toDate = .ok r → r = none := by
  refine ⟨fun d t ht before after hbefore hafter => ?_, fun d n hn => ?_, fun n r hn hr => ?_⟩
  · exact congrArg Except.ok (dateOfText?_eq ht hbefore hafter)
  · rw [Date.epochNumber_eq hepoch] at hn
    have hpos := d.number_pos
    have hle := d.number_le
    have hsmall : |(n : ℚ)| ≤ 2 ^ 53 := by
      have hint : |n| ≤ 2 ^ 53 := by
        rw [Int.fdiv_eq_ediv_of_nonneg _ (by decide)] at hn
        unfold Date.epochNumber at hn
        rw [abs_le]
        omega
      exact_mod_cast hint
    obtain ⟨v, hv⟩ := Number.Binary64.ofInt_roundsTo (Number.Binary64.lt_overflow hsmall)
    rw [toDate_int hv.isInfinite_eq, Date.ofEpochDay?_eq_some_iff.2 hn.symm]
  · rw [Date.epochNumber_eq hepoch] at hn
    cases hinfinite : (Number.Binary64.ofInt n).isInfinite with
    | true =>
      rw [toDate_int_of_isInfinite hinfinite] at hr
      cases hr
    | false =>
      rw [toDate_int hinfinite] at hr
      rw [← Except.ok.inj hr]
      exact Option.eq_none_iff_forall_ne_some.2 fun d hd =>
        hn d (Date.ofEpochDay?_eq_some_iff.1 hd).symm

/-- A leap day between slashes with blanks around it, its first millisecond, and the millisecond
after the last day. -/
theorem toDate_agrees_leapDay :
    ∃ epoch d, Date.of? 1970 1 1 = some epoch ∧ Date.of? 2024 2 29 = some d ∧
      (Value.text ("  " ++ "02/29/2024" ++ "\n")).toDate = .ok (some d) ∧
      (Value.int 1709164800000).toDate = .ok (some d) ∧
      (Value.int 253402300800000).toDate = .ok none := by
  obtain ⟨epoch, hepoch⟩ : ∃ epoch, Date.of? 1970 1 1 = some epoch := ⟨_, rfl⟩
  obtain ⟨d, hd⟩ : ∃ d, Date.of? 2024 2 29 = some d := ⟨_, rfl⟩
  obtain ⟨htexts, hmillis, hnone⟩ := toDate_agrees hepoch
  have hnumber : epoch.number = 719163 := Date.epochNumber_eq hepoch
  have hday : d.number = 738945 := by
    cases hd
    rfl
  have htext : "02/29/2024" ∈ d.texts := by
    cases hd
    decide
  have hlast : (Value.int 253402300800000).toDate = .ok (Date.ofEpochDay? 2932897) :=
    toDate_int rfl
  refine ⟨epoch, d, hepoch, hd,
    htexts d _ htext _ _ (List.all_eq_true.1 rfl) (List.all_eq_true.1 rfl),
    hmillis d _ (by rw [hday, hnumber]; rfl), ?_⟩
  rw [hlast]
  refine congrArg Except.ok (hnone _ _ (fun d' heq => ?_) hlast)
  have hle := d'.number_le
  rw [hnumber, Int.fdiv_eq_ediv_of_nonneg _ (by decide)] at heq
  omega

end Value

end Intake
