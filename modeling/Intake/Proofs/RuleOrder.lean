import Intake.Proofs.Levels
import Intake.Proofs.Values
import Mathlib.Data.List.Pairwise

/-! The order of the rules. Rules are declared in an order, and only the order in which failures are
reported depends on it: at most one of the rules asks the service, and each looks at the value
alone. -/

namespace Intake

namespace Run

variable {α β : Type}

/-- Both runs end in faults, or both give the same in some order and leave the same exchange. -/
def SameUpToOrder (r s : Run (List α)) : Prop :=
  ∀ e, (∃ f f' e₁ e₁', r.outcome e = (.error f, e₁) ∧ s.outcome e = (.error f', e₁')) ∨
    ∃ xs ys e₁, r.outcome e = (.ok xs, e₁) ∧ s.outcome e = (.ok ys, e₁) ∧ xs.Perm ys

def append (r s : Run (List α)) : Run (List α) := do
  let xs ← r
  return xs ++ (← s)

namespace SameUpToOrder

theorem refl (r : Run (List α)) : r.SameUpToOrder r := by
  intro e
  rcases h : r.outcome e with ⟨f | xs, e₁⟩
  · exact .inl ⟨f, f, e₁, e₁, rfl, rfl⟩
  · exact .inr ⟨xs, xs, e₁, rfl, rfl, .refl xs⟩

theorem symm {r s : Run (List α)} (h : r.SameUpToOrder s) : s.SameUpToOrder r := by
  intro e
  rcases h e with ⟨f, f', e₁, e₁', hr, hs⟩ | ⟨xs, ys, e₁, hr, hs, hperm⟩
  · exact .inl ⟨f', f, e₁', e₁, hs, hr⟩
  · exact .inr ⟨ys, xs, e₁, hs, hr, hperm.symm⟩

theorem trans {r s t : Run (List α)} (h : r.SameUpToOrder s) (h' : s.SameUpToOrder t) :
    r.SameUpToOrder t := by
  intro e
  rcases h e with ⟨f, f', e₁, e₁', hr, hs⟩ | ⟨xs, ys, e₁, hr, hs, hperm⟩
  · rcases h' e with ⟨g, g', e₂, e₂', hs', ht⟩ | ⟨ys', zs, e₂, hs', ht, hperm'⟩
    · exact .inl ⟨f, g', e₁, e₂', hr, ht⟩
    · cases hs.symm.trans hs'
  · rcases h' e with ⟨g, g', e₂, e₂', hs', ht⟩ | ⟨ys', zs, e₂, hs', ht, hperm'⟩
    · cases hs.symm.trans hs'
    · cases hs.symm.trans hs'
      exact .inr ⟨xs, zs, e₁, hr, ht, hperm.trans hperm'⟩

theorem bind {r : Run β} {k k' : β → Run (List α)} (h : ∀ x, (k x).SameUpToOrder (k' x)) :
    (r >>= k).SameUpToOrder (r >>= k') := by
  intro e
  rcases hr : r.outcome e with ⟨f | x, e₁⟩
  · exact .inl ⟨f, f, e₁, e₁, outcome_bind_error hr, outcome_bind_error hr⟩
  · rw [outcome_bind_ok hr, outcome_bind_ok hr]
    exact h x e₁

end SameUpToOrder

theorem outcome_append_error {r s : Run (List α)} {e e₁ : Captcha.Exchange} {f : Fault}
    (hr : r.outcome e = (.error f, e₁)) : (r.append s).outcome e = (.error f, e₁) :=
  outcome_bind_error hr

theorem outcome_append_ok_error {r s : Run (List α)} {e e₁ e₂ : Captcha.Exchange} {xs : List α}
    {f : Fault} (hr : r.outcome e = (.ok xs, e₁)) (hs : s.outcome e₁ = (.error f, e₂)) :
    (r.append s).outcome e = (.error f, e₂) :=
  (outcome_bind_ok hr).trans (outcome_bind_error hs)

theorem outcome_append_ok {r s : Run (List α)} {e e₁ e₂ : Captcha.Exchange} {xs ys : List α}
    (hr : r.outcome e = (.ok xs, e₁)) (hs : s.outcome e₁ = (.ok ys, e₂)) :
    (r.append s).outcome e = (.ok (xs ++ ys), e₂) :=
  (outcome_bind_ok hr).trans (outcome_bind_ok hs)

theorem append_assoc (r s t : Run (List α)) : (r.append s).append t = r.append (s.append t) := by
  unfold append
  simp only [bind_assoc, pure_bind, List.append_assoc]

theorem SameUpToOrder.append {r r' s s' : Run (List α)} (h : r.SameUpToOrder r')
    (h' : s.SameUpToOrder s') : (r.append s).SameUpToOrder (r'.append s') := by
  intro e
  rcases h e with ⟨f, f', e₁, e₁', hr, hr'⟩ | ⟨xs, xs', e₁, hr, hr', hperm⟩
  · exact .inl ⟨f, f', e₁, e₁', outcome_append_error hr, outcome_append_error hr'⟩
  · rcases h' e₁ with ⟨f, f', e₂, e₂', hs, hs'⟩ | ⟨ys, ys', e₂, hs, hs', hperm'⟩
    · exact .inl ⟨f, f', e₂, e₂', outcome_append_ok_error hr hs, outcome_append_ok_error hr' hs'⟩
    · exact .inr ⟨_, _, e₂, outcome_append_ok hr hs, outcome_append_ok hr' hs', hperm.append hperm'⟩

theorem AsksNothing.append_comm {r : Run (List α)} (h : r.AsksNothing) (s : Run (List α)) :
    (r.append s).SameUpToOrder (s.append r) := by
  obtain ⟨result, rfl⟩ := h
  intro e
  have hr : ∀ e, (ofExcept result).outcome e = (result, e) := outcome_ofExcept result
  rcases hs : s.outcome e with ⟨f | ys, e₁⟩
  · cases result with
    | error f' => exact .inl ⟨f', f, e, e₁, outcome_append_error (hr e), outcome_append_error hs⟩
    | ok xs => exact .inl ⟨f, f, e₁, e₁, outcome_append_ok_error (hr e) hs, outcome_append_error hs⟩
  · cases result with
    | error f' =>
      exact .inl ⟨f', f', e, e₁, outcome_append_error (hr e), outcome_append_ok_error hs (hr e₁)⟩
    | ok xs =>
      exact .inr ⟨_, _, e₁, outcome_append_ok (hr e) hs, outcome_append_ok hs (hr e₁),
        List.perm_append_comm⟩

end Run

namespace RuleBag

/-- The same rules, no two of equal kinds, in another order. -/
structure Reorders (b b' : RuleBag) : Prop where
  perm : b.rules.Perm b'.rules
  distinct : b.kinds.Pairwise fun k k' => k'.equal k = false

namespace Reorders

variable {b b' : RuleBag}

theorem atMostOne (h : b.Reorders b') (kind : RuleKind) :
    b.rules.Pairwise fun e e' => e.1 ≠ kind.key ∨ e'.1 ≠ kind.key := by
  refine (List.pairwise_map.1 h.distinct).imp fun {e e'} hne => ?_
  by_contra hboth
  obtain ⟨he, he'⟩ := not_or.1 hboth
  have hequal : e'.1.equal e.1 = true := by
    rw [not_not.1 he, not_not.1 he']
    exact Value.text_equal_iff.2 rfl
  rw [hne] at hequal
  cases hequal

theorem get?_eq (h : b.Reorders b') (kind : RuleKind) : b.get? kind.key = b'.get? kind.key := by
  unfold get?
  rw [find?_eq_of_perm h.perm]
  intro e he e' he' hkey hkey'
  by_contra hne
  have hsymm : Std.Symm fun e e' : Value × Rule => e.1 ≠ kind.key ∨ e'.1 ≠ kind.key :=
    ⟨fun _ _ => Or.symm⟩
  rcases (h.atMostOne kind).forall he he' hne with hother | hother
  · exact hother (Value.text_equal_iff.1 hkey)
  · exact hother (Value.text_equal_iff.1 hkey')

theorem optsOut_eq (h : b.Reorders b') : b.optsOut = b'.optsOut := by
  unfold optsOut required
  rw [h.get?_eq]

theorem erase (h : b.Reorders b') (key : Value) : (b.erase key).Reorders (b'.erase key) :=
  ⟨h.perm.filter _, h.distinct.sublist (List.filter_sublist.map _)⟩

end Reorders

end RuleBag

namespace Validation
open Run

variable {c : Context} {slug : Value}

theorem rulesFailures_cons (value : Value) (e : Value × Rule) (rules : List (Value × Rule)) :
    rulesFailures c slug value (e :: rules) =
      (ruleFailures c slug value e.1 e.2).append (rulesFailures c slug value rules) := rfl

/-- Two rules of which one asks nothing may change places. -/
theorem rulesFailures_swap (value : Value) {e e' : Value × Rule} (rules : List (Value × Rule))
    (h : e.1 ≠ RuleKind.captcha.key ∨ e'.1 ≠ RuleKind.captcha.key) :
    (rulesFailures c slug value (e :: e' :: rules)).SameUpToOrder
      (rulesFailures c slug value (e' :: e :: rules)) := by
  simp only [rulesFailures_cons, ← append_assoc]
  refine SameUpToOrder.append ?_ (.refl _)
  rcases h with h | h
  · exact (ruleFailures_asksNothing h value e.2).append_comm _
  · exact ((ruleFailures_asksNothing h value e'.2).append_comm _).symm

theorem rulesFailures_perm (value : Value) {rules rules' : List (Value × Rule)}
    (h : rules.Perm rules')
    (hone : rules.Pairwise fun e e' => e.1 ≠ RuleKind.captcha.key ∨ e'.1 ≠ RuleKind.captcha.key) :
    (rulesFailures c slug value rules).SameUpToOrder (rulesFailures c slug value rules') := by
  induction h with
  | nil => exact .refl _
  | cons e h ih => exact .append (.refl _) (ih (List.pairwise_cons.1 hone).2)
  | swap e e' rules =>
    exact rulesFailures_swap value rules ((List.pairwise_cons.1 hone).1 e List.mem_cons_self)
  | trans h h' ih ih' => exact (ih hone).trans (ih' ((h.pairwise_iff Or.symm).1 hone))

variable {b b' : RuleBag}

theorem rulesFailures_reorders (h : b.Reorders b') (value : Value) :
    (rulesFailures c slug value b.rules).SameUpToOrder (rulesFailures c slug value b'.rules) :=
  rulesFailures_perm value h.perm (h.atMostOne .captcha)

theorem elementFailures_reorders (h : b.Reorders b') (value : Value) :
    (elementFailures c slug b value).SameUpToOrder (elementFailures c slug b' value) := by
  unfold elementFailures
  rw [h.optsOut_eq]
  split
  · exact .refl _
  · split
    · exact .refl _
    · exact rulesFailures_reorders h value

theorem elementsFailures_reorders (h : b.Reorders b') (xs : List Value) :
    (elementsFailures c slug b xs).SameUpToOrder (elementsFailures c slug b' xs) := by
  induction xs with
  | nil => exact .refl _
  | cons x xs ih => exact .append (elementFailures_reorders h x) ih

theorem listFailures_reorders (h : b.Reorders b') (value : Value) (xs : List Value) :
    (listFailures c slug value b xs).SameUpToOrder (listFailures c slug value b' xs) := by
  unfold listFailures
  rw [h.get?_eq]
  split
  · exact .refl _
  · split
    · exact .refl _
    · refine .bind fun whole => ?_
      exact .append (.refl (pure _)) (elementsFailures_reorders (h.erase _) xs)

theorem valueFailures_reorders (h : b.Reorders b') (value : Value) (isGroup : Bool) :
    (valueFailures c slug value b isGroup).SameUpToOrder
      (valueFailures c slug value b' isGroup) := by
  unfold valueFailures
  rw [h.optsOut_eq]
  split
  · exact .refl _
  · split
    · split
      · exact rulesFailures_reorders h value
      · exact listFailures_reorders h value _
    · exact rulesFailures_reorders h value

theorem checkInput_outcome_error {value : Value} {e e' : Captcha.Exchange} {f : Fault}
    (h : (valueFailures c slug value b false).outcome e = (.error f, e')) :
    (checkInput c value slug b).outcome e = (.ok ⟨[internalFailure slug]⟩, e') := by
  have hguarded : (guardedFailures c slug value b false).outcome e =
      (.ok [internalFailure slug], e') := by
    unfold guardedFailures
    rw [outcome_orElse, h]
  exact outcome_bind_ok hguarded

theorem checkInput_outcome_ok {value : Value} {e e' : Captcha.Exchange} {own : List Failure}
    (h : (valueFailures c slug value b false).outcome e = (.ok own, e')) :
    (checkInput c value slug b).outcome e = (.ok ⟨own⟩, e') := by
  have hguarded : (guardedFailures c slug value b false).outcome e = (.ok own, e') := by
    unfold guardedFailures
    rw [outcome_orElse, h]
  exact outcome_bind_ok hguarded

/-- With the same rules in another order a value has the same failures in another order. Either the
checks end in a fault with both and the internal error is all that is reported, or with neither, and
then the service is left the same. -/
theorem checkInput_reorders (c : Context) (value slug : Value) (h : b.Reorders b')
    (e : Captcha.Exchange) :
    ∃ report report' e₁ e₁', (checkInput c value slug b).outcome e = (.ok report, e₁) ∧
      (checkInput c value slug b').outcome e = (.ok report', e₁') ∧
      report.failures.Perm report'.failures ∧
      ((∃ f f', (valueFailures c slug value b false).outcome e = (.error f, e₁) ∧
          (valueFailures c slug value b' false).outcome e = (.error f', e₁') ∧
          report = ⟨[internalFailure slug]⟩ ∧ report' = ⟨[internalFailure slug]⟩) ∨
        (valueFailures c slug value b false).outcome e = (.ok report.failures, e₁) ∧
          (valueFailures c slug value b' false).outcome e = (.ok report'.failures, e₁') ∧
          e₁' = e₁) := by
  rcases valueFailures_reorders h value false e with
    ⟨f, f', e₁, e₁', hb, hb'⟩ | ⟨own, own', e₁, hb, hb', hperm⟩
  · exact ⟨_, _, e₁, e₁', checkInput_outcome_error hb, checkInput_outcome_error hb', .refl _,
      .inl ⟨f, f', hb, hb', rfl, rfl⟩⟩
  · exact ⟨_, _, e₁, e₁, checkInput_outcome_ok hb, checkInput_outcome_ok hb', hperm,
      .inr ⟨hb, hb', rfl⟩⟩

def mixedRules : List (Value × Rule) :=
  [(RuleKind.captcha.key, .options ⟨.captcha (.text "site") (.text "key"), []⟩),
    (RuleKind.number.key, .plain (.bool true)), (RuleKind.array.key, .plain (.bool true))]

def listOfTexts : Value := .list [.text "abc", .text "12"]

/-- Declared backwards the rules give the same failures of a list in another order. -/
theorem checkInput_reorders_mixedRules :
    ∃ report report' e₁ e₁',
      (checkInput .newYear listOfTexts (.text "tags") ⟨mixedRules⟩).outcome
        (.start [.failure "down"]) = (.ok report, e₁) ∧
      (checkInput .newYear listOfTexts (.text "tags") ⟨mixedRules.reverse⟩).outcome
        (.start [.failure "down"]) = (.ok report', e₁') ∧
      report.failures.map (·.code) = ["RECAPTCHA", "NUMBER", "RECAPTCHA"] ∧
      report.failures.Perm report'.failures := by
  have hreorders : RuleBag.Reorders ⟨mixedRules⟩ ⟨mixedRules.reverse⟩ :=
    ⟨(List.reverse_perm mixedRules).symm, by decide⟩
  obtain ⟨report, report', e₁, e₁', hrun, hrun', hperm, -⟩ := checkInput_reorders .newYear
    listOfTexts (.text "tags") hreorders (.start [.failure "down"])
  have hcodes : ((checkInput .newYear listOfTexts (.text "tags") ⟨mixedRules⟩).outcome
      (.start [.failure "down"])).1.toOption.map (fun report => report.failures.map (·.code)) =
        some ["RECAPTCHA", "NUMBER", "RECAPTCHA"] := by decide +kernel
  rw [hrun] at hcodes
  exact ⟨report, report', e₁, e₁', hrun, hrun', Option.some.inj hcodes, hperm⟩

end Validation

end Intake
