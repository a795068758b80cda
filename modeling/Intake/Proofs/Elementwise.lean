import Intake.Proofs.Faults
import Intake.Proofs.Values
import Intake.Proofs.Levels
import Mathlib.Data.List.Forall2

/-! Lists that are submitted. A list that a field takes is checked as a whole and then element by
element against the other rules, and one fault anywhere takes the place of all that would be
reported. -/

namespace Intake

namespace Validation

/-- The rules end in a fault for a value, whatever the service replies. -/
def Halts (c : Context) (slug : Value) (bag : RuleBag) (x : Value) : Prop :=
  ∃ f, valueFailures c slug x bag false = Run.ofExcept (.error f)

variable {c : Context} {slug : Value}

theorem elementFailures_eq {bag : RuleBag} (h : bag.get? RuleKind.array.key = none) (x : Value) :
    elementFailures c slug bag x = valueFailures c slug x bag false := by
  unfold elementFailures valueFailures
  split
  · rfl
  · cases x.elements? with
    | none => rfl
    | some xs =>
      unfold listFailures
      rw [h]
      rfl

theorem checkInput_of_halts {value : Value} {bag : RuleBag} (h : Halts c slug bag value) :
    checkInput c value slug bag = pure ⟨[internalFailure slug]⟩ := by
  obtain ⟨f, hf⟩ := h
  unfold checkInput guardedFailures
  rw [hf]
  rfl

theorem not_halts_of_pure {bag : RuleBag} {x : Value} {own : List Failure}
    (h : valueFailures c slug x bag false = pure own) : ¬ Halts c slug bag x := by
  rintro ⟨f, hf⟩
  have hpure : Run.ofExcept (.ok own) = Run.ofExcept (.error f) := h.symm.trans hf
  cases Run.ofExcept_injective hpure

theorem checkInput_of_pure {value : Value} {bag : RuleBag} {own : List Failure}
    (h : valueFailures c slug value bag false = pure own) :
    checkInput c value slug bag = pure ⟨own⟩ := by
  unfold checkInput guardedFailures
  rw [h]
  rfl

theorem elementsFailures_cases {bag : RuleBag} (hcaptcha : RuleKind.captcha.key ∉ bag.kinds)
    (harray : bag.get? RuleKind.array.key = none) (xs : List Value) :
    ((∃ x ∈ xs, Halts c slug bag x) ∧
        ∃ f, elementsFailures c slug bag xs = Run.ofExcept (.error f)) ∨
      (∀ x ∈ xs, ¬ Halts c slug bag x) ∧
        ∃ own, List.Forall₂ (fun x here => valueFailures c slug x bag false = pure here) xs own ∧
          elementsFailures c slug bag xs = pure own.flatten := by
  induction xs with
  | nil => exact .inr ⟨nofun, [], .nil, rfl⟩
  | cons x xs ih =>
    unfold elementsFailures
    rw [elementFailures_eq harray]
    have hasks : (valueFailures c slug x bag false).AsksNothing :=
      valueFailures_asksNothing hcaptcha x false
    obtain ⟨f | here, hx⟩ := hasks
    · rw [hx]
      exact .inl ⟨⟨x, List.mem_cons_self, f, hx⟩, f, rfl⟩
    · rw [hx]
      rcases ih with ⟨⟨y, hy, hhalts⟩, f, hrest⟩ | ⟨hnone, own, hown, hrest⟩
      · refine .inl ⟨⟨y, List.mem_cons_of_mem _ hy, hhalts⟩, f, ?_⟩
        rw [hrest]
        rfl
      · have hfirst := not_halts_of_pure hx
        refine .inr ⟨List.forall_mem_cons.2 ⟨hfirst, hnone⟩, here :: own, .cons hx hown, ?_⟩
        rw [hrest]
        rfl

theorem valueFailures_list {bag : RuleBag} {value : Value} {xs : List Value}
    (h : value.elements? = some xs) :
    valueFailures c slug value bag false = listFailures c slug value bag xs := by
  have hopts : ¬ (bag.optsOut && isEmpty value) = true := by
    rw [isEmpty_of_elements? h, Bool.and_false]
    exact Bool.false_ne_true
  unfold valueFailures
  rw [if_neg hopts, h]
  rfl

theorem checkInput_refused {bag : RuleBag} {value : Value} {xs : List Value}
    (h : value.elements? = some xs)
    (hoff : ∀ rule, bag.get? RuleKind.array.key = some rule → rule.truthy = false) :
    checkInput c value slug bag = pure ⟨[multipleFailure slug]⟩ := by
  refine checkInput_of_pure ?_
  rw [valueFailures_list h]
  unfold listFailures
  cases hrule : bag.get? RuleKind.array.key with
  | none => rfl
  | some rule =>
    dsimp only
    rw [hoff rule hrule]
    rfl

theorem checkInput_multiple {bag : RuleBag} {x : Value} (hx : x.elements?.isSome = true)
    (harray : bag.get? RuleKind.array.key = none) :
    checkInput c x slug bag = pure ⟨[multipleFailure slug]⟩ := by
  obtain ⟨ys, hys⟩ := Option.isSome_iff_exists.1 hx
  refine checkInput_refused hys fun rule hrule => ?_
  rw [harray] at hrule
  cases hrule

section
variable {bag : RuleBag} {value : Value} {xs : List Value} {rule : Rule}
  (h : value.elements? = some xs) (hrule : bag.get? RuleKind.array.key = some rule)
  (htruthy : rule.truthy = true)
include h hrule htruthy

theorem valueFailures_letIn : valueFailures c slug value bag false =
    Run.ofExcept (Check.array value (withoutShorthand rule)) >>= fun whole => do
      return whole.map (failure slug · (code .array)) ++
        (← elementsFailures c slug (bag.erase RuleKind.array.key) xs) := by
  rw [valueFailures_list h]
  unfold listFailures
  rw [hrule]
  dsimp only
  rw [htruthy]
  rfl

variable (hcaptcha : RuleKind.captcha.key ∉ (bag.erase RuleKind.array.key).kinds)
include hcaptcha

theorem halts_letIn (hfaults : Faults (Check.array value (withoutShorthand rule)) ∨
    ∃ x ∈ xs, Halts c slug (bag.erase RuleKind.array.key) x) : Halts c slug bag value := by
  unfold Halts
  rw [valueFailures_letIn h hrule htruthy]
  cases hwhole : Check.array value (withoutShorthand rule) with
  | error f => exact ⟨f, rfl⟩
  | ok whole =>
    rw [hwhole, or_iff_right (not_faults_ok whole)] at hfaults
    obtain ⟨x, hx, hhalts⟩ := hfaults
    rcases elementsFailures_cases hcaptcha (bag.get?_erase_self _) xs with
      ⟨-, f, helements⟩ | ⟨hnone, -⟩
    · rw [helements]
      exact ⟨f, rfl⟩
    · exact absurd hhalts (hnone x hx)

theorem checkInput_letIn {whole : List String}
    (hwhole : Check.array value (withoutShorthand rule) = .ok whole)
    (hnone : ∀ x ∈ xs, ¬ Halts c slug (bag.erase RuleKind.array.key) x) :
    ∃ reports, List.Forall₂ (fun x report =>
        checkInput c x slug (bag.erase RuleKind.array.key) = pure report) xs reports ∧
      checkInput c value slug bag = pure ⟨whole.map (failure slug · (code .array)) ++
        reports.flatMap Report.failures⟩ := by
  rcases elementsFailures_cases hcaptcha (bag.get?_erase_self _) xs with
    ⟨⟨x, hx, hhalts⟩, -⟩ | ⟨-, own, hown, helements⟩
  · exact absurd hhalts (hnone x hx)
  · refine ⟨own.map Report.mk, ?_, checkInput_of_pure ?_⟩
    · exact List.forall₂_map_right_iff.2 (hown.imp fun _ _ hx => checkInput_of_pure hx)
    · rw [valueFailures_letIn h hrule htruthy, hwhole, helements]
      simp [Run.ofExcept, List.flatMap, Function.comp_def]

end

/-- A list without a rule for lists that is on is reported as one value too many. With such a rule,
and without one for captchas, it is checked as a whole, and each element is checked as a value of
its own against the other rules, where an element that is a list is one value too many. A fault of
any check is all that is reported; else the failures of the whole come first and those of the
elements follow in their order. -/
theorem checkInput_elements (c : Context) (slug : Value) (bag : RuleBag) {value : Value}
    {xs : List Value} (h : value.elements? = some xs) :
    ((∀ rule, bag.get? RuleKind.array.key = some rule → rule.truthy = false) →
      checkInput c value slug bag = pure ⟨[multipleFailure slug]⟩) ∧
    ∀ rule, bag.get? RuleKind.array.key = some rule → rule.truthy = true →
      RuleKind.captcha.key ∉ bag.kinds →
      (∀ x, x.elements?.isSome = true →
        checkInput c x slug (bag.erase RuleKind.array.key) = pure ⟨[multipleFailure slug]⟩) ∧
      (Faults (Check.array value (withoutShorthand rule)) ∨
          (∃ x ∈ xs, Halts c slug (bag.erase RuleKind.array.key) x) →
        checkInput c value slug bag = pure ⟨[internalFailure slug]⟩) ∧
      ∀ whole, Check.array value (withoutShorthand rule) = .ok whole →
        (∀ x ∈ xs, ¬ Halts c slug (bag.erase RuleKind.array.key) x) →
        ∃ reports, List.Forall₂ (fun x report =>
            checkInput c x slug (bag.erase RuleKind.array.key) = pure report) xs reports ∧
          checkInput c value slug bag = pure ⟨whole.map (failure slug · (code .array)) ++
            reports.flatMap Report.failures⟩ := by
  refine ⟨checkInput_refused h, fun rule hrule htruthy hcaptcha => ?_⟩
  have hrest : RuleKind.captcha.key ∉ (bag.erase RuleKind.array.key).kinds :=
    fun hmem => hcaptcha (kinds_erase_subset bag _ hmem)
  refine ⟨fun x hx => checkInput_multiple hx (bag.get?_erase_self _), fun hfaults => ?_,
    fun whole hwhole hnone => ?_⟩
  · exact checkInput_of_halts (halts_letIn h hrule htruthy hrest hfaults)
  · exact checkInput_letIn h hrule htruthy hrest hwhole hnone

def givenValues : RuleBag :=
  ⟨[(RuleKind.array.key, .plain (.bool true)), (RuleKind.required.key, .plain (.bool true))]⟩

/-- Of a list with a null and a list in it, the null is reported as missing and the list inside as
one value too many. -/
theorem checkInput_elements_givenValues :
    checkInput .newYear (.list [.null, .list [.int 1]]) (.text "tags") givenValues =
      pure ⟨[failure (.text "tags") "A value is required." "REQUIRED",
        multipleFailure (.text "tags")]⟩ := by
  have hlist : (Value.list [.null, .list [.int 1]]).elements? = some [.null, .list [.int 1]] := rfl
  have hcaptcha : RuleKind.captcha.key ∉ givenValues.kinds :=
    fun h => absurd (RuleBag.contains_key_iff.2 h) (by decide)
  have hnone : ∀ x ∈ [Value.null, .list [.int 1]],
      ¬ Halts .newYear (.text "tags") (givenValues.erase RuleKind.array.key) x :=
    List.forall_mem_cons.2
      ⟨not_halts_of_pure rfl, List.forall_mem_singleton.2 (not_halts_of_pure rfl)⟩
  obtain ⟨-, helements⟩ := checkInput_elements .newYear (.text "tags") givenValues hlist
  obtain ⟨hinside, -, hreports⟩ := helements _ rfl rfl hcaptcha
  obtain ⟨_, hforall, hcheck⟩ := hreports [] rfl hnone
  obtain ⟨⟩ | ⟨hnull, ⟨⟩ | ⟨hsecond, ⟨⟩⟩⟩ := hforall
  obtain rfl := Except.ok.inj (Run.ofExcept_injective hnull)
  obtain rfl := Except.ok.inj (Run.ofExcept_injective ((hinside _ rfl).symm.trans hsecond))
  exact hcheck

end Validation

end Intake
