import Intake.Proofs.Elementwise
import Intake.Proofs.Documents
import Intake.Proofs.RuleOrder

/-! Rules that are said to be optional. A value that is empty is then let through, an empty element
of a list as if it were not there, and for all else the rules stay what they were: fewer failures
are reported, in the same order, and no other ones. -/

namespace Intake

namespace Run
variable {α : Type}

@[simp] theorem pure_nil_append (r : Run (List α)) : (pure [] : Run (List α)).append r = r := by
  unfold append
  simp only [pure_bind, List.nil_append, bind_pure]

theorem pure_injective {x y : α} (h : (pure x : Run α) = pure y) : x = y := by
  have hvalue : ofExcept (.ok x) = ofExcept (.ok y) := h
  exact Except.ok.inj (ofExcept_injective hvalue)

theorem append_eq_pure {r s : Run (List α)} (hr : r.AsksNothing) (hs : s.AsksNothing)
    {zs : List α} (h : r.append s = pure zs) :
    ∃ xs ys, r = pure xs ∧ s = pure ys ∧ zs = xs ++ ys := by
  obtain ⟨f | xs, rfl⟩ := hr
  · have hfault : ofExcept (.error f) = ofExcept (.ok zs) := h
    cases ofExcept_injective hfault
  · obtain ⟨f | ys, rfl⟩ := hs
    · have hfault : ofExcept (.error f) = ofExcept (.ok zs) := h
      cases ofExcept_injective hfault
    · have hvalue : ofExcept (.ok (xs ++ ys)) = ofExcept (.ok zs) := h
      cases ofExcept_injective hvalue
      exact ⟨xs, ys, rfl, rfl, rfl⟩

end Run

namespace RuleBag

/-- The same rules, with what is marked as not required. -/
def optional (b : RuleBag) : RuleBag := b.insert RuleKind.required.key (.plain (.bool false))

@[simp] theorem optsOut_optional (b : RuleBag) : b.optional.optsOut = true := by
  unfold optsOut required optional
  rw [get?_insert_self]
  rfl

@[simp] theorem get?_array_optional (b : RuleBag) :
    b.optional.get? RuleKind.array.key = b.get? RuleKind.array.key := by
  unfold optional
  exact get?_insert_of_ne b (by decide) _

section
variable {b : RuleBag} (h : RuleKind.required.key ∉ b.kinds)
include h

theorem optsOut_of_not_mem : b.optsOut = false := by
  have hnone : b.get? RuleKind.required.key = none := by
    cases hrule : b.get? RuleKind.required.key with
    | none => rfl
    | some rule => exact absurd (List.mem_map_of_mem (mem_of_get? hrule)) h
  unfold optsOut required
  rw [hnone]
  rfl

theorem optional_eq :
    b.optional = ⟨b.rules ++ [(RuleKind.required.key, .plain (.bool false))]⟩ := by
  refine insert_of_not_equal (fun k hk => ?_) _
  rw [Bool.eq_false_iff]
  intro hequal
  have hkey : k = RuleKind.required.key := Value.text_equal_iff.1 hequal
  exact h (hkey ▸ hk)

theorem erase_array_optional :
    b.optional.erase RuleKind.array.key = (b.erase RuleKind.array.key).optional := by
  have hrest : RuleKind.required.key ∉ (b.erase RuleKind.array.key).kinds := fun hmem =>
    h (Validation.kinds_erase_subset b _ hmem)
  rw [optional_eq h, optional_eq hrest]
  unfold erase
  rw [List.filter_append]
  rfl

end

end RuleBag

namespace Validation

variable {c : Context} {slug : Value} {bag : RuleBag}

theorem elementsFailures_cons (x : Value) (xs : List Value) :
    elementsFailures c slug bag (x :: xs) =
      (elementFailures c slug bag x).append (elementsFailures c slug bag xs) := rfl

theorem rulesFailures_concat_optional (value : Value) (rules : List (Value × Rule)) :
    rulesFailures c slug value (rules ++ [(RuleKind.required.key, .plain (.bool false))]) =
      rulesFailures c slug value rules := by
  induction rules with
  | nil => rfl
  | cons r rules ih =>
    rw [List.cons_append, rulesFailures_cons, ih, ← rulesFailures_cons]

section
variable (h : RuleKind.required.key ∉ bag.kinds)
include h

theorem rulesFailures_optional (value : Value) :
    rulesFailures c slug value bag.optional.rules = rulesFailures c slug value bag.rules := by
  rw [RuleBag.optional_eq h]
  exact rulesFailures_concat_optional value bag.rules

theorem elementFailures_optional (x : Value) :
    elementFailures c slug bag.optional x =
      if isEmpty x then pure [] else elementFailures c slug bag x := by
  unfold elementFailures
  rw [RuleBag.optsOut_optional, RuleBag.optsOut_of_not_mem h, rulesFailures_optional h,
    Bool.true_and, Bool.false_and]
  rfl

theorem elementsFailures_optional (xs : List Value) :
    elementsFailures c slug bag.optional xs =
      elementsFailures c slug bag (xs.filter fun x => !isEmpty x) := by
  induction xs with
  | nil => rfl
  | cons x xs ih =>
    rw [elementsFailures_cons, elementFailures_optional h, ih]
    cases hx : isEmpty x with
    | true =>
      rw [List.filter_cons_of_neg (by simp [hx])]
      exact Run.pure_nil_append _
    | false =>
      rw [List.filter_cons_of_pos (by simp [hx])]
      rfl

end

theorem elementsFailures_sublist (hcaptcha : RuleKind.captcha.key ∉ bag.kinds) {xs ys : List Value}
    (hsub : xs.Sublist ys) {own : List Failure} (hys : elementsFailures c slug bag ys = pure own) :
    ∃ own', elementsFailures c slug bag xs = pure own' ∧ own'.Sublist own := by
  induction hsub generalizing own with
  | slnil => exact ⟨own, hys, .refl own⟩
  | cons y hsub ih =>
    rw [elementsFailures_cons] at hys
    obtain ⟨here, rest, -, hrest, rfl⟩ := Run.append_eq_pure
      (elementFailures_asksNothing hcaptcha y) (elementsFailures_asksNothing hcaptcha _) hys
    obtain ⟨own', hxs, hown⟩ := ih hrest
    exact ⟨own', hxs, hown.trans (List.sublist_append_right here rest)⟩
  | cons_cons y hsub ih =>
    rw [elementsFailures_cons] at hys
    obtain ⟨here, rest, hhere, hrest, rfl⟩ := Run.append_eq_pure
      (elementFailures_asksNothing hcaptcha y) (elementsFailures_asksNothing hcaptcha _) hys
    obtain ⟨own', hxs, hown⟩ := ih hrest
    refine ⟨here ++ own', ?_, (List.Sublist.refl here).append hown⟩
    rw [elementsFailures_cons, hhere, hxs]
    rfl

section
variable (hrequired : RuleKind.required.key ∉ bag.kinds)
include hrequired

theorem valueFailures_optional {value : Value} (hscalar : value.elements? = none)
    (hempty : isEmpty value = false) :
    valueFailures c slug value bag.optional false = valueFailures c slug value bag false := by
  unfold valueFailures
  rw [hempty, hscalar, rulesFailures_optional hrequired, Bool.and_false, Bool.and_false]

variable (hcaptcha : RuleKind.captcha.key ∉ bag.kinds)
include hcaptcha

theorem listFailures_relaxes {value : Value} {xs : List Value} {own : List Failure}
    (h : listFailures c slug value bag xs = pure own) :
    ∃ own', listFailures c slug value bag.optional xs = pure own' ∧ own'.Sublist own := by
  unfold listFailures at h ⊢
  rw [RuleBag.get?_array_optional, RuleBag.erase_array_optional hrequired]
  cases hrule : bag.get? RuleKind.array.key with
  | none =>
    rw [hrule] at h
    exact ⟨own, h, .refl own⟩
  | some rule =>
    rw [hrule] at h
    dsimp only at h ⊢
    cases htruthy : rule.truthy with
    | false =>
      rw [htruthy] at h
      exact ⟨own, h, .refl own⟩
    | true =>
      rw [htruthy] at h
      cases hwhole : Check.array value (withoutShorthand rule) with
      | error f =>
        rw [hwhole] at h
        have hfault : Run.ofExcept (.error f) = Run.ofExcept (.ok own) := h
        cases Run.ofExcept_injective hfault
      | ok whole =>
        rw [hwhole] at h
        have hrest : RuleKind.required.key ∉ (bag.erase RuleKind.array.key).kinds := fun hmem =>
          hrequired (kinds_erase_subset bag _ hmem)
        have hasks : RuleKind.captcha.key ∉ (bag.erase RuleKind.array.key).kinds := fun hmem =>
          hcaptcha (kinds_erase_subset bag _ hmem)
        -- the failures of the list as a whole come first, and stay
        obtain ⟨first, elements, hfirst, helements, rfl⟩ := Run.append_eq_pure
          (r := pure (whole.map (failure slug · (code .array)))) (Run.asksNothing_pure _)
          (elementsFailures_asksNothing hasks xs) h
        obtain ⟨elements', helements', hsub⟩ :=
          elementsFailures_sublist hasks List.filter_sublist helements
        refine ⟨first ++ elements', ?_, (List.Sublist.refl first).append hsub⟩
        show (pure (whole.map (failure slug · (code .array))) : Run (List Failure)).append
          (elementsFailures c slug (bag.erase RuleKind.array.key).optional xs) = _
        rw [hfirst, elementsFailures_optional hrest, helements']
        rfl

theorem valueFailures_relaxes {value : Value} {own : List Failure}
    (h : valueFailures c slug value bag false = pure own) :
    ∃ own', valueFailures c slug value bag.optional false = pure own' ∧ own'.Sublist own := by
  cases hempty : isEmpty value with
  | true =>
    refine ⟨[], ?_, List.nil_sublist own⟩
    unfold valueFailures
    rw [RuleBag.optsOut_optional, hempty]
    rfl
  | false =>
    cases helements : value.elements? with
    | none => exact ⟨own, (valueFailures_optional hrequired helements hempty).trans h, .refl own⟩
    | some xs =>
      rw [valueFailures_list helements] at h ⊢
      exact listFailures_relaxes hrequired hcaptcha h

omit hrequired in
theorem exists_report (value : Value) : ∃ report, checkInput c value slug bag = pure report := by
  have hasks : (valueFailures c slug value bag false).AsksNothing :=
    valueFailures_asksNothing hcaptcha value false
  obtain ⟨f | own, h⟩ := hasks
  · exact ⟨_, checkInput_of_halts ⟨f, h⟩⟩
  · exact ⟨_, checkInput_of_pure h⟩

end

/-- Opting out only relaxes. Where the rules are checked without a fault, the optional ones are too
and report some of the failures in their order; and a value that is neither a list nor empty gets
the same report. -/
theorem checkInput_optional (c : Context) (slug value : Value)
    (hrequired : RuleKind.required.key ∉ bag.kinds) (hcaptcha : RuleKind.captcha.key ∉ bag.kinds) :
    ∃ report report', checkInput c value slug bag = pure report ∧
      checkInput c value slug bag.optional = pure report' ∧
      ((∀ x ∈ report.failures, x.code ≠ "INTERNAL_ERROR") →
        report'.failures.Sublist report.failures ∧
          ∀ x ∈ report'.failures, x.code ≠ "INTERNAL_ERROR") ∧
      (value.elements? = none → isEmpty value = false → report' = report) := by
  obtain ⟨report', hreport'⟩ : ∃ report', checkInput c value slug bag.optional = pure report' :=
    exists_report (captcha_not_mem_insert (by decide) _ hcaptcha) value
  obtain ⟨report, hreport⟩ : ∃ report, checkInput c value slug bag = pure report :=
    exists_report hcaptcha value
  refine ⟨report, report', hreport, hreport', fun hnone => ?_, fun hscalar hempty => ?_⟩
  · obtain ⟨f | own, h⟩ : (valueFailures c slug value bag false).AsksNothing :=
      valueFailures_asksNothing hcaptcha value false
    -- a fault would have been reported
    · have hfault : report = ⟨[internalFailure slug]⟩ :=
        Run.pure_injective (hreport.symm.trans (checkInput_of_halts ⟨f, h⟩))
      rw [hfault] at hnone
      exact absurd rfl (hnone _ List.mem_cons_self)
    · obtain ⟨own', h', hsub⟩ := valueFailures_relaxes hrequired hcaptcha h
      have hown : report = ⟨own⟩ := Run.pure_injective (hreport.symm.trans (checkInput_of_pure h))
      have hown' : report' = ⟨own'⟩ :=
        Run.pure_injective (hreport'.symm.trans (checkInput_of_pure h'))
      rw [hown] at hnone ⊢
      rw [hown']
      exact ⟨hsub, fun x hx => hnone x (hsub.subset hx)⟩
  · have hsame : checkInput c value slug bag.optional = checkInput c value slug bag := by
      unfold checkInput guardedFailures
      rw [valueFailures_optional hrequired hscalar hempty]
    exact Run.pure_injective (hreport'.symm.trans (hsame.trans hreport))

def listOfNumbers : RuleBag :=
  ⟨[(RuleKind.number.key, .plain (.bool true)), (RuleKind.array.key, .plain (.bool true))]⟩

/-- Of a null and a word neither is a number; where numbers are optional, the word alone fails. -/
theorem checkInput_optional_listOfNumbers :
    ∃ report report',
      checkInput .newYear (.list [.null, .text "abc"]) (.text "age") listOfNumbers = pure report ∧
      checkInput .newYear (.list [.null, .text "abc"]) (.text "age") listOfNumbers.optional =
        pure report' ∧
      report.failures.map (·.code) = ["NUMBER", "NUMBER"] ∧
      report'.failures.map (·.code) = ["NUMBER"] ∧
      report'.failures.Sublist report.failures := by
  have hrequired : RuleKind.required.key ∉ listOfNumbers.kinds :=
    fun h => absurd (RuleBag.contains_key_iff.2 h) (by decide)
  have hcaptcha : RuleKind.captcha.key ∉ listOfNumbers.kinds :=
    fun h => absurd (RuleBag.contains_key_iff.2 h) (by decide)
  obtain ⟨report, report', hreport, hreport', hrelaxes, -⟩ := checkInput_optional .newYear
    (.text "age") (.list [.null, .text "abc"]) hrequired hcaptcha
  have hcodes : ((checkInput .newYear (.list [.null, .text "abc"]) (.text "age")
      listOfNumbers).outcome (.start [])).1.toOption.map (fun r => r.failures.map (·.code)) =
        some ["NUMBER", "NUMBER"] := by decide +kernel
  have hcodes' : ((checkInput .newYear (.list [.null, .text "abc"]) (.text "age")
      listOfNumbers.optional).outcome (.start [])).1.toOption.map (fun r =>
        r.failures.map (·.code)) = some ["NUMBER"] := by decide +kernel
  rw [hreport] at hcodes
  rw [hreport'] at hcodes'
  replace hcodes : report.failures.map (·.code) = ["NUMBER", "NUMBER"] := Option.some.inj hcodes
  have hnone : ∀ x ∈ report.failures, x.code ≠ "INTERNAL_ERROR" := by
    intro x hx heq
    have hcode : x.code ∈ ["NUMBER", "NUMBER"] := hcodes ▸ List.mem_map_of_mem hx
    rw [heq] at hcode
    exact absurd hcode (by decide)
  exact ⟨report, report', hreport, hreport', hcodes, Option.some.inj hcodes', (hrelaxes hnone).1⟩

end Validation

end Intake
