import Intake.Proofs.WellFormed

/-! Which values the checks of single values cannot take. Messages name values, and an integer with
too many digits cannot be named; numbers are rounded, and an integer that is too large cannot be;
and some options that are accepted do not fit every value they are compared with. -/

namespace Intake

/-- A computation ends in a fault. -/
def Faults {α : Type} (r : Except Fault α) : Prop := ∃ f, r = .error f

section
variable {α β : Type}

@[simp] theorem not_faults_ok (x : α) : ¬ Faults (.ok x : Except Fault α) := by
  rintro ⟨f, h⟩
  cases h

@[simp] theorem not_faults_pure (x : α) : ¬ Faults (pure x : Except Fault α) := not_faults_ok x

@[simp] theorem faults_error (f : Fault) : Faults (.error f : Except Fault α) := ⟨f, rfl⟩

theorem faults_bind_iff {r : Except Fault α} {k : α → Except Fault β} :
    Faults (r >>= k) ↔ Faults r ∨ ∃ x, r = .ok x ∧ Faults (k x) := by
  cases r with
  | error f => exact iff_of_true ⟨f, rfl⟩ (.inl ⟨f, rfl⟩)
  | ok x =>
    constructor
    · exact fun h => .inr ⟨x, rfl, h⟩
    · rintro (h | ⟨x', hx, h⟩)
      · exact absurd h (not_faults_ok x)
      · cases hx
        exact h

theorem faults_bind_const_iff {r : Except Fault α} {k : α → Except Fault β} {p : Prop}
    (h : ∀ x, Faults (k x) ↔ p) : Faults (r >>= k) ↔ Faults r ∨ p := by
  cases r with
  | error f => exact iff_of_true ⟨f, rfl⟩ (.inl ⟨f, rfl⟩)
  | ok x =>
    rw [or_iff_right (not_faults_ok x)]
    exact h x

@[simp] theorem faults_map_iff {r : Except Fault α} (g : α → β) :
    Faults (do return g (← r)) ↔ Faults r := by
  rw [faults_bind_const_iff (p := False) fun x => iff_of_false (not_faults_pure (g x)) id, or_false]

theorem ite_bind_eq {p : Prop} [Decidable p] (r s : Except Fault α) (k : α → Except Fault β) :
    (if p then r >>= k else s >>= k) = (if p then r else s) >>= k := by
  split <;> rfl

theorem faults_bind_ok_iff {r : Except Fault α} {k : α → Except Fault β} {x : α} (h : r = .ok x) :
    Faults (r >>= k) ↔ Faults (k x) := by
  rw [h]
  rfl

end

namespace Number.Binary64

theorem log2_le_of_ofInt {n : Int} (h : (ofInt n).isInfinite = false) :
    Nat.log2 n.natAbs ≤ 1024 := by
  have hguess : (Nat.log2 n.natAbs : Int) - 53 ≤ exponentOf n.natAbs 1 := by
    have hone : Nat.log2 1 = 0 := by decide
    unfold exponentOf
    simp only [hone, precision]
    split <;> omega
  rcases Nat.lt_or_ge 1024 (Nat.log2 n.natAbs) with hlt | hle
  -- the exponent is at least the one guessed, and beyond the greatest one all is infinite
  · have hmax : maxExponent < exponentOf n.natAbs 1 := by
      unfold maxExponent
      omega
    unfold ofInt ofRatio at h
    split at h
    · rename_i hzero
      rw [beq_iff_eq.1 hzero]
      decide
    · simp only at h
      split at h
      · rw [if_pos (show maxExponent < exponentOf n.natAbs 1 + 1 by omega)] at h
        cases h
      · cases h
  · exact hle

end Number.Binary64

namespace Value

def IsTooLarge (v : Value) : Prop := ∃ n, v = .int n ∧ (Number.Binary64.ofInt n).isInfinite = true

@[simp] theorem faults_written_iff {v : Value} : Faults v.written ↔ v.isWritable = false := by
  unfold written
  cases v.isWritable <;> simp

theorem written_eq {v : Value} (h : v.isWritable = true) : v.written = .ok v.display := by
  unfold written
  rw [if_pos h]

@[simp] theorem faults_toNumber_iff {v : Value} : Faults v.toNumber ↔ v.IsTooLarge := by
  unfold IsTooLarge
  cases v with
  | int n =>
    unfold toNumber
    cases h : (Number.Binary64.ofInt n).isInfinite <;> simp [h]
  | _ => simp [toNumber]

@[simp] theorem isWritable_int_iff {n : Int} :
    (Value.int n).isWritable = true ↔ n.natAbs < Nat.pow 10 Number.digitLimit := by
  unfold isWritable
  exact decide_eq_true_iff

theorem isWritable_of_int {n : Int} (h : (Number.Binary64.ofInt n).isInfinite = false) :
    (Value.int n).isWritable = true := by
  rw [isWritable_int_iff]
  have hlog := Number.Binary64.log2_le_of_ofInt h
  have hlimit : Nat.log2 n.natAbs + 1 ≤ Number.digitLimit := by
    unfold Number.digitLimit
    omega
  -- the limit is hidden so that no power of it is computed
  generalize Number.digitLimit = limit at hlimit ⊢
  calc n.natAbs < 2 ^ (Nat.log2 n.natAbs + 1) := Nat.lt_log2_self
    _ ≤ 10 ^ (Nat.log2 n.natAbs + 1) := Nat.pow_le_pow_left (by decide) _
    _ ≤ 10 ^ limit := Nat.pow_le_pow_right (by decide) hlimit

theorem isWritable_of_toNumber {v : Value} {x : Number.Binary64} (h : v.toNumber = .ok (some x)) :
    v.isWritable = true := by
  cases v with
  | int n =>
    apply isWritable_of_int
    unfold toNumber at h
    cases hn : (Number.Binary64.ofInt n).isInfinite with
    | false => rfl
    | true => simp [hn] at h
  | float _ | text _ => rfl
  | _ => cases h

end Value

namespace Rule

def ExceededBy (r : Rule) (length : Nat) : Prop :=
  ∃ min max, r = .options ⟨.length min max, []⟩ ∧
    ((∃ x, min.toNumber = .ok (some x) ∧ (Number.Numeric.int length).lt (.float x) = true) ∨
      ∃ x, max.toNumber = .ok (some x) ∧ (Number.Numeric.int length).gt (.float x) = true)

def Refuses (r : Rule) (v : Value) : Prop :=
  ∃ xs, r.toValue.elements? = some xs ∧ xs ≠ [] ∧ ∀ x ∈ xs, v.same x = false

def RestrictsBytes (r : Rule) : Prop :=
  ∃ rs, r = .options ⟨.email (.list rs), []⟩ ∧ ∃ bs, .bytes bs ∈ rs

def SizeMisfits (size maxBytes : Value) : Prop :=
  maxBytes ≠ .null ∧ (Faults (Check.sizeFits size maxBytes) ∨
    Check.sizeFits size maxBytes = .ok false ∧
      (size.isWritable = false ∨ maxBytes.isWritable = false))

def TypeMisfits (mimetype mimeTypes : Value) : Prop :=
  mimeTypes ≠ .null ∧ mimetype.truthy = true ∧ (Faults (mimetype.isIn mimeTypes) ∨
    mimetype.isIn mimeTypes = .ok false ∧ mimetype.isWritable = false)

def Misfits (r : Rule) (u : Option Upload) : Prop :=
  ∃ mimeTypes maxBytes, r = .options ⟨.file mimeTypes maxBytes, []⟩ ∧
    (SizeMisfits ((u.map (·.size)).getD .null) maxBytes ∨
      TypeMisfits ((u.map (·.mimetype)).getD .null) mimeTypes)

/-- The values that the check of a kind cannot take. Most kinds cannot name a value that cannot be
written, and name it only when it fails. -/
def Trips (r : Rule) (kind : RuleKind) (v : Value) : Prop :=
  match kind with
  | .required | .array | .group | .address => False
  | .string | .boolean | .phone | .captcha => v.isWritable = false
  | .number | .minAge => v.IsTooLarge ∨ v.isWritable = false
  | .values => r.Refuses v ∧ v.isWritable = false
  | .email => (∃ s, v = .text s ∧ s ≠ "") ∧ r.RestrictsBytes ∨ v.isWritable = false
  | .file => r.Misfits (Validation.asUpload? v)

end Rule

namespace Check
open Validation

variable {names : Pattern.Names}

@[simp] theorem faults_messageIf_iff {wrong : Bool} {message : Except Fault String} :
    Faults (messageIf wrong message) ↔ wrong = true ∧ Faults message := by
  cases wrong with
  | false => simp [messageIf]
  | true =>
    rw [messageIf, if_pos rfl, faults_map_iff]
    simp

@[simp]
theorem faults_outOfBounds_iff {isBelow isAbove : Bool} {tooSmall tooLarge : Except Fault String} :
    Faults (outOfBounds isBelow isAbove tooSmall tooLarge) ↔
      isBelow = true ∧ Faults tooSmall ∨ isAbove = true ∧ Faults tooLarge := by
  unfold outOfBounds
  rw [faults_bind_const_iff (p := isAbove = true ∧ Faults tooLarge), faults_messageIf_iff]
  intro x
  rw [faults_map_iff, faults_messageIf_iff]

theorem faults_naming_iff {β : Type} {v : Value} (g : String → β) :
    Faults (do return g (← v.written)) ↔ v.isWritable = false := by
  rw [faults_map_iff, Value.faults_written_iff]

theorem faults_namingBoth_iff {v w : Value} (g : String → String → String) {x : Number.Binary64}
    (hw : w.toNumber = .ok (some x)) :
    Faults (do return g (← v.written) (← w.written)) ↔ v.isWritable = false := by
  have hwritten := Value.written_eq (Value.isWritable_of_toNumber hw)
  rw [faults_bind_const_iff (p := False), Value.faults_written_iff, or_false]
  intro s
  rw [hwritten]
  exact iff_of_false (not_faults_ok _) id

theorem faults_bounds_iff {v min max : Value} {least greatest : Option Number.Binary64}
    (hmin : min.toNumber = .ok least) (hmax : max.toNumber = .ok greatest)
    (below above : Number.Binary64 → Bool) (g h : String → String → String) :
    Faults (outOfBounds (least.any below) (greatest.any above)
      (do return g (← v.written) (← min.written)) (do return h (← v.written) (← max.written))) ↔
      ((∃ x, min.toNumber = .ok (some x) ∧ below x = true) ∨
        ∃ x, max.toNumber = .ok (some x) ∧ above x = true) ∧ v.isWritable = false := by
  rw [faults_outOfBounds_iff, or_and_right]
  apply or_congr
  · rw [hmin]
    cases least with
    | none => simp
    | some x =>
      rw [faults_namingBoth_iff g hmin]
      simp
  · rw [hmax]
    cases greatest with
    | none => simp
    | some x =>
      rw [faults_namingBoth_iff h hmax]
      simp

theorem toNumber_of_isBound {v : Value} {floor : Option Int} (h : v.IsBound floor) :
    ∃ number, v.toNumber = .ok number := by
  rcases h with rfl | ⟨x, hx, _⟩
  · exact ⟨none, rfl⟩
  · exact ⟨some x, hx⟩

theorem length_cases {r : Rule} (h : r.WellFormed names .string ∨ r.WellFormed names .array) :
    r = .plain (.bool true) ∨ ∃ min max, r = .options ⟨.length min max, []⟩ ∧
      min.IsBound (some 0) ∧ max.IsBound (some 1) := by
  rcases h with (h | ⟨o, rfl, h⟩) | (h | ⟨o, rfl, h⟩)
  · exact .inl h
  · cases o with
    | length min max => exact .inr ⟨min, max, rfl, h.1, h.2.1⟩
    | _ => exact h.elim
  · exact .inl h
  · cases o with
    | length min max => exact .inr ⟨min, max, rfl, h.1, h.2.1⟩
    | _ => exact h.elim

theorem faults_lengthFailures_iff {r : Rule}
    (h : r.WellFormed names .string ∨ r.WellFormed names .array)
    (label : String) (v : Value) (length : Nat) :
    Faults (lengthFailures label v length (withoutShorthand r)) ↔
      r.ExceededBy length ∧ v.isWritable = false := by
  rcases length_cases h with rfl | ⟨min, max, rfl, hmin, hmax⟩
  · have hok : lengthFailures label v length (withoutShorthand (.plain (.bool true))) = .ok [] :=
      rfl
    rw [hok]
    simp [Rule.ExceededBy]
  · obtain ⟨least, hleast⟩ := toNumber_of_isBound hmin
    obtain ⟨greatest, hgreatest⟩ := toNumber_of_isBound hmax
    have hbounds := faults_bounds_iff (v := v) hleast hgreatest
      (fun x => (Number.Numeric.int length).lt (.float x))
      (fun x => (Number.Numeric.int length).gt (.float x))
      (fun s t => s!"{label} \"{s}\" is too short. Minimum length is: {t}")
      (fun s t => s!"{label} \"{s}\" is too long. Maximum length is: {t}")
    have hrule : withoutShorthand (.options ⟨.length min max, []⟩) =
        .options ⟨.length min max, []⟩ := rfl
    have hpair : lengthBounds (.options ⟨.length min max, []⟩) = .ok (min, max) := rfl
    unfold lengthFailures
    rw [hrule, faults_bind_ok_iff hpair, faults_bind_ok_iff hleast, faults_bind_ok_iff hgreatest]
    refine hbounds.trans (and_congr_left' ⟨fun h => ⟨min, max, rfl, h⟩, ?_⟩)
    rintro ⟨_, _, heq, h⟩
    cases heq
    exact h

theorem faults_string_iff {r : Rule} (h : r.WellFormed names .string) (v : Value) :
    Faults (string v (withoutShorthand r)) ↔ v.isWritable = false := by
  cases v with
  | text s =>
    have hwritable : (Value.text s).isWritable = true := rfl
    unfold string
    simp only
    split
    · simp [hwritable]
    · rw [faults_lengthFailures_iff (.inl h)]
      simp [hwritable]
  | _ => exact faults_naming_iff fun s => [s!"Input value \"{s}\" is not a valid string."]

@[simp] theorem faults_boolean_iff (v : Value) : Faults (boolean v) ↔ v.isWritable = false := by
  cases v with
  | bool b => exact iff_of_false (not_faults_ok _) nofun
  | null => exact iff_of_false (not_faults_ok _) nofun
  | _ => exact faults_naming_iff fun s => [s!"Input is not a boolean: \"{s}\""]

theorem faults_array_iff {r : Rule} (h : r.WellFormed names .array) {v : Value} {xs : List Value}
    (hv : v.elements? = some xs) :
    Faults (array v (withoutShorthand r)) ↔ r.ExceededBy xs.length ∧ v.isWritable = false := by
  unfold array
  rw [hv]
  exact faults_lengthFailures_iff (.inr h) "Input" v xs.length

theorem number_cases {r : Rule} (h : r.WellFormed names .number) :
    r = .plain (.bool true) ∨ ∃ min max, r = .options ⟨.number min max, []⟩ ∧
      min.IsBound none ∧ max.IsBound none := by
  rcases h with h | ⟨o, rfl, h⟩
  · exact .inl h
  · cases o with
    | number min max => exact .inr ⟨min, max, rfl, h.1, h.2.1⟩
    | _ => exact h.elim

theorem not_isTooLarge_of_toNumber {v : Value} {number : Option Number.Binary64}
    (h : v.toNumber = .ok number) : ¬ v.IsTooLarge := by
  rw [← Value.faults_toNumber_iff, h]
  exact not_faults_ok number

theorem faults_number_iff {r : Rule} (h : r.WellFormed names .number) (v : Value) :
    Faults (number v (withoutShorthand r)) ↔ v.IsTooLarge ∨ v.isWritable = false := by
  unfold number
  cases hv : v.toNumber with
  | error f => exact iff_of_true ⟨f, rfl⟩ (.inl (Value.faults_toNumber_iff.1 ⟨f, hv⟩))
  | ok x =>
    rw [or_iff_right (not_isTooLarge_of_toNumber hv)]
    cases x with
    | none => exact faults_naming_iff fun s => [s!"Input \"{s}\" is not a valid number."]
    | some x =>
      -- messages about bounds name the value, which is a number here and so can be written
      have hwritable := Value.isWritable_of_toNumber hv
      refine iff_of_false ?_ (by simp [hwritable])
      rcases number_cases h with rfl | ⟨min, max, rfl, hmin, hmax⟩
      · exact not_faults_ok []
      · obtain ⟨least, hleast⟩ := toNumber_of_isBound hmin
        obtain ⟨greatest, hgreatest⟩ := toNumber_of_isBound hmax
        have hpair : numberBounds (withoutShorthand (.options ⟨.number min max, []⟩)) =
            .ok (min, max) := rfl
        have hbounds := faults_bounds_iff (v := v) hleast hgreatest (x.lt ·) (x.gt ·)
          (fun s t => s!"Input \"{s}\" is too low. Minimum value is: {t}")
          (fun s t => s!"Input \"{s}\" is too high. Maximum value is: {t}")
        intro hf
        have hrest := (faults_bind_ok_iff hpair).1 ((faults_bind_ok_iff rfl).1 hf)
        have hrest := (faults_bind_ok_iff hgreatest).1 ((faults_bind_ok_iff hleast).1 hrest)
        rw [hwritable] at hbounds
        exact absurd (hbounds.1 hrest).2 nofun

@[simp] theorem faults_toDate_iff {v : Value} : Faults v.toDate ↔ v.IsTooLarge := by
  unfold Value.IsTooLarge
  cases v with
  | int n =>
    unfold Value.toDate Value.isNumber
    cases h : (Number.Binary64.ofInt n).isInfinite <;> simp [h, faults_bind_iff]
  | _ => simp [Value.toDate, Value.isNumber, faults_bind_iff]

theorem isWritable_of_toDate {v : Value} {born : Calendar.Date} (h : v.toDate = .ok (some born)) :
    v.isWritable = true := by
  cases v with
  | int n =>
    apply Value.isWritable_of_int
    cases hn : (Number.Binary64.ofInt n).isInfinite with
    | false => rfl
    | true =>
      have hlarge := faults_toDate_iff.2 ⟨n, rfl, hn⟩
      rw [h] at hlarge
      exact absurd hlarge (not_faults_ok _)
  | date _ | moment _ | text _ | float _ => rfl
  | _ => cases h

theorem faults_age_iff {r : Rule} (h : r.WellFormed names .minAge) (today : Calendar.Date)
    (v : Value) :
    Faults (age today v r.toValue) ↔ v.IsTooLarge ∨ v.isWritable = false := by
  obtain ⟨least, x, rfl, hleast⟩ := h
  unfold age
  cases hv : v.toDate with
  | error f => exact iff_of_true ⟨f, rfl⟩ (.inl (faults_toDate_iff.1 ⟨f, hv⟩))
  | ok born =>
    have hlarge : ¬ v.IsTooLarge := by
      rw [← faults_toDate_iff, hv]
      exact not_faults_ok born
    rw [or_iff_right hlarge]
    cases born with
    | none => exact faults_naming_iff fun s => [s!"Input is not a valid date: \"{s}\""]
    | some born =>
      have hwritable := isWritable_of_toDate hv
      refine iff_of_false (fun hf => ?_) (by simp [hwritable])
      have hrest := (faults_bind_ok_iff hleast).1 ((faults_bind_ok_iff rfl).1 hf)
      have hmessage := (faults_messageIf_iff.1 hrest).2
      have hnaming := (faults_namingBoth_iff (fun s t =>
        s!"Input \"{s}\" does not meet the age requirement of: " ++ s!"\"{t}\"") hleast).1 hmessage
      rw [hwritable] at hnaming
      cases hnaming

theorem faults_values_iff (r : Rule) (v : Value) :
    Faults (values v r.toValue) ↔ r.Refuses v ∧ v.isWritable = false := by
  unfold values Rule.Refuses
  cases r.toValue.elements? with
  | none => simp
  | some xs =>
    simp only [Option.some.injEq, exists_eq_left']
    by_cases hany : (xs.isEmpty || xs.any (v.same ·)) = true
    · rw [if_pos hany]
      refine iff_of_false (not_faults_ok []) ?_
      rintro ⟨⟨hne, hno⟩, -⟩
      rcases Bool.or_eq_true_iff.1 hany with hempty | hsame
      · exact hne (List.isEmpty_iff.1 hempty)
      · obtain ⟨x, hx, hsame⟩ := List.any_eq_true.1 hsame
        rw [hno x hx] at hsame
        cases hsame
    · rw [if_neg hany, faults_naming_iff fun s =>
        [s!"Input \"{s}\" is not in the list of acceptable values."], and_iff_right]
      rw [Bool.or_eq_true, not_or, List.isEmpty_iff, List.any_eq_true, not_exists] at hany
      exact ⟨hany.1, fun x hx => Bool.eq_false_iff.2 fun h => hany.2 x ⟨hx, h⟩⟩

theorem toPattern_cases {v : Value} {p : ValuePattern} (h : v.toPattern names = .ok p) :
    (∃ s, v = .text s) ∧ p.isText = true ∨ (∃ bs, v = .bytes bs) ∧ p.isText = false := by
  obtain ⟨w, hkey, hread⟩ := bind_eq_ok.1 h
  obtain rfl := Validation.eq_of_asKey hkey
  clear h hkey
  cases w with
  | text s =>
    refine .inl ⟨⟨s, rfl⟩, ?_⟩
    dsimp only at hread
    split at hread <;> cases hread
    rfl
  | bytes bs =>
    refine .inr ⟨⟨bs, rfl⟩, ?_⟩
    dsimp only at hread
    split at hread <;> cases hread
    rfl
  | _ => cases hread

theorem faults_isRestricted_iff {normal : Option String} {rs : List Value}
    (h : ∀ r ∈ rs, r.IsPattern names) :
    Faults (isRestricted names normal rs) ↔ normal.isSome = true ∧ ∃ bs, .bytes bs ∈ rs := by
  induction rs with
  | nil => simp [isRestricted]
  | cons r rs ih =>
    rw [List.forall_mem_cons] at h
    obtain ⟨⟨p, hp⟩, hrest⟩ := h
    have hrest := ih hrest
    unfold isRestricted
    rw [faults_bind_ok_iff hp]
    cases normal with
    | none => simpa using hrest
    | some s =>
      rcases toPattern_cases hp with ⟨⟨t, rfl⟩, htext⟩ | ⟨⟨bs, rfl⟩, htext⟩
      · simp only [htext, Bool.not_true, Bool.false_eq_true, if_false]
        rw [faults_bind_const_iff (p := False) (by simp), hrest, or_false]
        simp
      · simp only [htext, Bool.not_false, if_true]
        refine iff_of_true ⟨_, rfl⟩ ⟨rfl, bs, List.mem_cons_self⟩

theorem faults_twice_iff {v : Value} {a b : Bool} (g h : String → String) :
    Faults (do return (← messageIf a (do return g (← v.written))) ++
      (← messageIf b (do return h (← v.written)))) ↔
        (a = true ∨ b = true) ∧ v.isWritable = false := by
  rw [faults_bind_const_iff (p := b = true ∧ v.isWritable = false), faults_messageIf_iff,
    faults_naming_iff, or_and_right]
  intro x
  rw [faults_map_iff, faults_messageIf_iff, faults_naming_iff]

theorem email_cases {r : Rule} (h : r.WellFormed names .email) :
    r = .plain (.bool true) ∨ ∃ rs, r = .options ⟨.email (.list rs), []⟩ ∧
      rs ≠ [] ∧ ∀ p ∈ rs, p.IsPattern names := by
  rcases h with h | ⟨o, rfl, h⟩
  · exact .inl h
  · cases o with
    | email restrictions =>
      obtain ⟨rs, rfl, hne, hrs⟩ := h
      exact .inr ⟨rs, rfl, hne, hrs⟩
    | _ => exact h.elim

theorem faults_restricted_iff {v restrictions : Value} (rs : List Value)
    (hitems : (if restrictions.truthy then restrictions.items else pure []) = .ok rs)
    (hrs : ∀ r ∈ rs, r.IsPattern names) :
    Faults (email names v restrictions) ↔
      (∃ s, v = .text s ∧ s ≠ "") ∧ (∃ bs, .bytes bs ∈ rs) ∨ v.isWritable = false := by
  have hnormal : (v.text?.bind Email.normalize?).isSome = true ↔ ∃ s, v = .text s ∧ s ≠ "" := by
    cases v with
    | text s => by_cases hs : s = "" <;> simp [Value.text?, Email.normalize?, hs]
    | _ => simp [Value.text?]
  unfold email
  dsimp only
  rw [ite_bind_eq, faults_bind_ok_iff hitems, faults_bind_const_iff (p := v.isWritable = false),
    faults_isRestricted_iff hrs, hnormal]
  intro restricted
  refine (faults_twice_iff _ _).trans ?_
  -- a text can be named, and all else is no address and so is named
  cases v with
  | text s =>
    have hwritable : (Value.text s).isWritable = true := rfl
    simp [hwritable]
  | _ => simp [Value.text?]

theorem faults_email_iff {r : Rule} (h : r.WellFormed names .email) (v : Value) :
    Faults (do email names v (← emailRestrictions (withoutShorthand r))) ↔
      (∃ s, v = .text s ∧ s ≠ "") ∧ r.RestrictsBytes ∨ v.isWritable = false := by
  rcases email_cases h with rfl | ⟨rs, rfl, hne, hrs⟩
  · have hnull : emailRestrictions (withoutShorthand (.plain (.bool true))) = .ok .null := rfl
    rw [faults_bind_ok_iff hnull, faults_restricted_iff [] rfl (by simp)]
    simp [Rule.RestrictsBytes]
  · have hlist : emailRestrictions (withoutShorthand (.options ⟨.email (.list rs), []⟩)) =
        .ok (.list rs) := rfl
    have htruthy : (Value.list rs).truthy = true := by
      cases rs with
      | nil => exact absurd rfl hne
      | cons r rs => rfl
    rw [faults_bind_ok_iff hlist, faults_restricted_iff rs (by rw [htruthy]; rfl) hrs]
    simp [Rule.RestrictsBytes]

theorem truthy_of_unwritable {v : Value} (h : v.isWritable = false) : v.truthy = true := by
  cases v with
  | int n =>
    by_cases hn : n = 0
    · subst hn
      rw [Value.isWritable_int_iff.2 (Nat.pow_pos (by decide))] at h
      cases h
    · simp [Value.truthy, hn]
  | list xs => cases xs with
    | nil => cases h
    | cons x xs => rfl
  | tuple xs | set xs => cases xs with
    | nil => cases h
    | cons x xs => rfl
  | map es => cases es with
    | nil => cases h
    | cons e es => rfl
  | answer _ _ | upload _ _ _ _ _ => rfl
  | _ => cases h

theorem faults_phone_iff {r : Rule} (h : r.WellFormed names .phone) (v : Value) :
    Faults (do phone v (← phoneRequirements (withoutShorthand r))) ↔ v.isWritable = false := by
  have hrequirements : ∃ w, phoneRequirements (withoutShorthand r) = .ok w := by
    rcases h with rfl | ⟨o, rfl, h⟩
    · exact ⟨.null, rfl⟩
    · cases o with
      | phone requirements => exact ⟨requirements, rfl⟩
      | _ => exact h.elim
  obtain ⟨w, hw⟩ := hrequirements
  rw [faults_bind_ok_iff hw]
  unfold phone
  by_cases ht : v.truthy = true
  · rw [if_neg (by simp [ht])]
    exact faults_naming_iff _
  · rw [if_pos (by simp [ht])]
    exact iff_of_false (not_faults_ok _) fun h => ht (truthy_of_unwritable h)

@[simp] theorem faults_not_iff {r : Except Fault Bool} : Faults (not <$> r) ↔ Faults r := by
  cases r with
  | error f => exact Iff.rfl
  | ok x => exact iff_of_false (not_faults_ok _) (not_faults_ok _)

@[simp]
theorem not_eq_ok_true_iff {r : Except Fault Bool} : not <$> r = .ok true ↔ r = .ok false := by
  cases r with
  | error f => exact iff_of_false nofun nofun
  | ok x => cases x <;> simp [Functor.map, Except.map]

theorem faults_answers_iff {r s : Except Fault Bool} {p q : Prop} {α : Type}
    {k : Bool → Bool → Except Fault α}
    (hk : ∀ x y, Faults (k x y) ↔ x = true ∧ p ∨ y = true ∧ q) :
    Faults (do k (← r) (← s)) ↔ (Faults r ∨ r = .ok true ∧ p) ∨ (Faults s ∨ s = .ok true ∧ q) := by
  rw [faults_bind_iff]
  cases r with
  | error f => simp
  | ok x =>
    simp only [not_faults_ok, false_or, Except.ok.injEq, exists_eq_left']
    rw [faults_bind_iff]
    cases s with
    | error f => simp
    | ok y => simp [hk]

theorem sizeMisfits_iff {size maxBytes : Value} {p : Prop}
    (hp : p ↔ size.isWritable = false ∨ maxBytes.isWritable = false) :
    (Faults (if maxBytes.isNull = true then pure false else not <$> sizeFits size maxBytes) ∨
      (if maxBytes.isNull = true then pure false else not <$> sizeFits size maxBytes) = .ok true ∧
        p) ↔ Rule.SizeMisfits size maxBytes := by
  unfold Rule.SizeMisfits
  by_cases hnull : maxBytes = .null
  · subst hnull
    simp [Value.isNull, pure, Except.pure]
  · have hno : ¬ maxBytes.isNull = true := by
      intro h
      cases maxBytes with
      | null => exact hnull rfl
      | _ => cases h
    rw [if_neg hno, faults_not_iff, not_eq_ok_true_iff, hp, and_iff_right hnull]

theorem typeMisfits_iff {mimetype mimeTypes : Value} :
    (Faults (if mimeTypes.isNull = true then pure false
        else if (!mimetype.truthy) = true then pure true else not <$> mimetype.isIn mimeTypes) ∨
      (if mimeTypes.isNull = true then pure false
        else if (!mimetype.truthy) = true then pure true else not <$> mimetype.isIn mimeTypes) =
          .ok true ∧ mimetype.isWritable = false) ↔ Rule.TypeMisfits mimetype mimeTypes := by
  unfold Rule.TypeMisfits
  by_cases hnull : mimeTypes = .null
  · subst hnull
    simp [Value.isNull, pure, Except.pure]
  · have hno : ¬ mimeTypes.isNull = true := by
      intro h
      cases mimeTypes with
      | null => exact hnull rfl
      | _ => cases h
    rw [if_neg hno, and_iff_right hnull]
    by_cases ht : mimetype.truthy = true
    · rw [if_neg (by simp [ht]), faults_not_iff, not_eq_ok_true_iff, and_iff_right ht]
    · have hwritable : ¬ mimetype.isWritable = false := fun h => ht (truthy_of_unwritable h)
      rw [if_pos (by simp [ht])]
      simp [ht, hwritable]

theorem faults_file_iff {r : Rule} (h : r.WellFormed names .file) (u : Option Upload) :
    Faults (file u (withoutShorthand r)) ↔ r.Misfits u := by
  obtain ⟨o, rfl, h⟩ := h
  cases o with
  | file mimeTypes maxBytes =>
    have hlimits : fileLimits (withoutShorthand (.options ⟨.file mimeTypes maxBytes, []⟩)) =
        .ok (mimeTypes, maxBytes) := rfl
    have hmisfits : (Rule.options ⟨.file mimeTypes maxBytes, []⟩).Misfits u ↔
        Rule.SizeMisfits ((u.map (·.size)).getD .null) maxBytes ∨
          Rule.TypeMisfits ((u.map (·.mimetype)).getD .null) mimeTypes := by
      constructor
      · rintro ⟨_, _, heq, h⟩
        cases heq
        exact h
      · exact fun h => ⟨mimeTypes, maxBytes, rfl, h⟩
    unfold file
    dsimp only
    rw [faults_bind_ok_iff hlimits, hmisfits]
    dsimp only
    simp only [ite_bind_eq]
    generalize (u.map (·.size)).getD .null = size
    generalize (u.map (·.mimetype)).getD .null = mimetype
    rw [← sizeMisfits_iff Iff.rfl, ← typeMisfits_iff]
    -- both comparisons are made before the first message is formed
    refine faults_answers_iff fun tooLarge wrongType => ?_
    have hboth : Faults (do
        return s!"File size \"{← size.written}\" exceeds the maximum limit of: " ++
        s!"{← maxBytes.written} bytes") ↔
          size.isWritable = false ∨ maxBytes.isWritable = false := by
      rw [faults_bind_const_iff (p := maxBytes.isWritable = false), Value.faults_written_iff]
      exact fun s => faults_naming_iff _
    rw [faults_bind_const_iff (p := wrongType = true ∧ mimetype.isWritable = false),
      faults_messageIf_iff, hboth]
    intro x
    rw [faults_map_iff, faults_messageIf_iff, faults_naming_iff]
  | _ => exact h.elim

end Check

end Intake
