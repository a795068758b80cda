import Intake.Proofs.FirstMatch
import Intake.Proofs.Passing

/-! Faults stay where they arise. A fault in the check of a value becomes one failure of the field
that the value is found for, and the visit goes on with the next field, so that fields declared side
by side are checked as if each part of them were a form of its own. -/

namespace Intake.Validation
open Run

variable {c : Context}

/-- What the check of a field reports of it: a single fault, or failures none of which is one. -/
def Isolated (slug : Value) (own : List Failure) : Prop :=
  own = [internalFailure slug] ∨ ∀ x ∈ own, x.slug = slug ∧ x.code ≠ "INTERNAL_ERROR"

theorem guardedFailures_isolated (slug value : Value) (bag : RuleBag) (isGroup : Bool) :
    (guardedFailures c slug value bag isGroup).Gives (Isolated slug) := by
  intro e own e' hrun
  rcases guardedFailures_gives c slug value bag isGroup e own e' hrun with hfault | hown
  · exact .inl hfault
  · exact .inr fun x hx => ⟨(hown x hx).1, (isOwn_code (hown x hx)).2.1⟩

theorem checkInput_reports (value slug : Value) (bag : RuleBag) (e : Captcha.Exchange) :
    ∃ report e', (checkInput c value slug bag).outcome e = (.ok report, e') ∧
      Isolated slug report.failures := by
  obtain ⟨own, e', hrun⟩ := exists_outcome_orElse (valueFailures c slug value bag false)
    (fun _ => [internalFailure slug]) e
  exact ⟨⟨own⟩, e', outcome_bind_ok hrun,
    guardedFailures_isolated slug value bag false e own e' hrun⟩

theorem restFailures_append (answers : List Answer) (own : List Upload) (fs gs : List Field) :
    restFailures c answers own (fs ++ gs) = (do
      let first ← restFailures c answers own fs
      return first ++ (← restFailures c answers own gs)) := by
  induction fs with
  | nil =>
    rw [List.nil_append, restFailures]
    simp only [pure_bind, List.nil_append, bind_pure]
  | cons f fs ih =>
    rw [List.cons_append, restFailures, restFailures, ih]
    simp only [bind_assoc, pure_bind, List.append_assoc]

theorem check_ofFields_of_rest {fields : List Field} (hne : fields ≠ []) {s : Submitted}
    (hs : s.HasTexts) (hf : ∀ slug ∈ Field.slugsOf fields, slug.IsText) {xs : List Failure}
    {e e' : Captcha.Exchange}
    (h : (restFailures c s.answers s.uploads fields).outcome e = (.ok xs, e')) :
    ∃ report, (check c s.answers fields s.uploads).outcome e = (.ok report, e') ∧
      report.ofFields = xs := by
  have hform : (formFailures c s.answers s.uploads fields).outcome e = (.ok xs, e') := by
    unfold formFailures
    rw [outcome_orElse, asKeys_eq fun slug hslug => (hf slug hslug).isKey,
      outcome_bind_ok (outcome_ofExcept _ e), h]
  obtain ⟨report, e₁, hrun, hfields⟩ := check_ofFields (c := c) hne hs e
  obtain ⟨hxs, rfl⟩ := Prod.mk.inj (hfields.symm.trans hform)
  exact ⟨report, hrun, Except.ok.inj hxs⟩

end Intake.Validation

namespace Intake.Level
open Validation

variable {c : Context} {uploads : List Upload}

theorem restFailures_outcome {l : Level} (hl : l.HasTexts) (hu : ∀ u ∈ uploads, u.fieldName.IsText)
    (hq : l.AsksNothing c uploads) {fs : List Field} (hsub : fs ⊆ l.fields) (e : Captcha.Exchange) :
    ∃ xs, (restFailures c l.answers uploads fs).outcome e = (.ok xs, e) := by
  have hf : ∀ s ∈ Field.slugsOf fs, s.IsKey :=
    fun s hs => (hl.declared s (Field.slugsOf_subset hsub hs)).isKey
  obtain ⟨xs, e', hrun, hvisit⟩ := restFailures_visit (c := c) l uploads fs
    (fun s hs => (hl.submitted s hs).isKey) hf (fun u hmem => (hu u hmem).isKey) (fun _ _ => rfl) e
  -- a visit without requests ends where it began
  obtain ⟨_, rfl⟩ := hvisit.eq_nil_iff hl hq hsub
  exact ⟨xs, hrun⟩

/-- Two forms side by side make one whose report holds what is reported of the one and then of the
other. -/
theorem check_append {fs gs : List Field} (hfs : fs ≠ []) (hgs : gs ≠ []) {answers : List Answer}
    (hl : HasTexts ⟨fs ++ gs, answers⟩) (hu : ∀ u ∈ uploads, u.fieldName.IsText)
    (hq : AsksNothing c uploads ⟨fs ++ gs, answers⟩) (e : Captcha.Exchange) :
    ∃ whole first second,
      (check c answers (fs ++ gs) uploads).outcome e = (.ok whole, e) ∧
      (check c answers fs uploads).outcome e = (.ok first, e) ∧
      (check c answers gs uploads).outcome e = (.ok second, e) ∧
      whole.ofFields = first.ofFields ++ second.ofFields := by
  have htexts : Submitted.HasTexts ⟨answers, uploads⟩ := ⟨hl.submitted, hu⟩
  have hleft := List.subset_append_left fs gs
  have hright := List.subset_append_right fs gs
  obtain ⟨xs, hxs⟩ := restFailures_outcome hl hu hq hleft e
  obtain ⟨ys, hys⟩ := restFailures_outcome hl hu hq hright e
  have hboth : (restFailures c answers uploads (fs ++ gs)).outcome e = (.ok (xs ++ ys), e) := by
    rw [restFailures_append, Run.outcome_bind_ok hxs, Run.outcome_bind_ok hys]
    rfl
  obtain ⟨whole, hwhole, hall⟩ := check_ofFields_of_rest (List.append_ne_nil_of_left_ne_nil hfs gs)
    htexts hl.declared hboth
  obtain ⟨first, hfirst, rfl⟩ := check_ofFields_of_rest hfs htexts
    (fun s hs => hl.declared s (Field.slugsOf_subset hleft hs)) hxs
  obtain ⟨second, hsecond, rfl⟩ := check_ofFields_of_rest hgs htexts
    (fun s hs => hl.declared s (Field.slugsOf_subset hright hs)) hys
  exact ⟨whole, first, second, hwhole, hfirst, hsecond, hall⟩

/-- Where slugs and names are texts no fault breaks off the check of a form or of a group in it,
whatever the checks of values end in and whatever the service replies: the fields are visited to the
last, and the part of each in the report is one fault or holds none. Of forms side by side each has
the part that it has alone. And a value on its own is checked to the end against any map of rules.
-/
theorem check_isolates (c : Context) (l : Level) (hl : l.HasTexts) (uploads : List Upload)
    (hu : ∀ u ∈ uploads, u.fieldName.IsText) (e : Captcha.Exchange) :
    (∃ failures report e', (check c l.answers l.fields uploads).outcome e = (.ok report, e') ∧
      report.failures = l.report (uploads.map (·.fieldName)) failures ∧
      ¬ Meets BreaksOff report.failures ∧ Visit c uploads l l.fields e failures e') ∧
    (∀ (m : Level) (f : Field) (e₁ e₂ : Captcha.Exchange) (own : List Failure),
      ((m.ownCheck c uploads f).orElse fun _ => [internalFailure f.slug]).outcome e₁ =
        (.ok own, e₂) → Isolated f.slug own) ∧
    (∀ fs gs, l.fields = fs ++ gs → fs ≠ [] → gs ≠ [] →
      (∀ siblings, Field.Layer l.fields siblings → ∀ f ∈ siblings, ∀ b, f.rules = some b →
        b.contains RuleKind.captcha.key = false) →
      ∃ whole first second, (check c l.answers l.fields uploads).outcome e = (.ok whole, e) ∧
        (check c l.answers fs uploads).outcome e = (.ok first, e) ∧
        (check c l.answers gs uploads).outcome e = (.ok second, e) ∧
        whole.ofFields = first.ofFields ++ second.ofFields) ∧
    ∀ (slug : String) (value : Value),
      (∀ given, given = .null ∨ (∃ entries, given = .map entries) →
        ∃ bag, rulesOf given = .ok bag) ∧
      ∀ bag, ∃ report e', (checkInput c value (.text slug) bag).outcome e = (.ok report, e') ∧
        Isolated (.text slug) report.failures := by
  refine ⟨?_, fun m f e₁ e₂ own hown => ?_, fun fs gs hfields hfs hgs hnone => ?_,
    fun slug value => ⟨fun given hgiven => ?_, fun bag => ?_⟩⟩
  · obtain ⟨failures, e', hrun, hvisit⟩ := check_visit (c := c) hl hu e
    exact ⟨failures, _, e', hrun, rfl, hvisit.report_not_breaksOff _, hvisit⟩
  · exact guardedFailures_isolated f.slug _ _ _ e₁ own e₂ hown
  · have hq := asksNothing_of_layers c uploads hnone
    obtain ⟨fields, answers⟩ := l
    obtain rfl : fields = fs ++ gs := hfields
    exact check_append hfs hgs hl hu hq e
  · rcases hgiven with rfl | ⟨entries, rfl⟩
    · exact ⟨.empty, rfl⟩
    · exact ⟨.ofEntries entries, rfl⟩
  · exact checkInput_reports value (.text slug) bag e

def named : Field := .leaf .text (.ofRules "name" [(.string, .plain (.int 5))])

def aged : Field := .leaf .text (.ofRules "age" [(.required, .plain (.bool true))])

/-- The fault of the name is one failure, and the age that is left out is reported all the same. -/
theorem check_isolates_aged :
    ∃ whole first second,
      (check .newYear [⟨.text "name", .text "Ada"⟩] [named, aged] []).outcome (.start []) =
        (.ok whole, .start []) ∧
      (check .newYear [⟨.text "name", .text "Ada"⟩] [named] []).outcome (.start []) =
        (.ok first, .start []) ∧
      (check .newYear [⟨.text "name", .text "Ada"⟩] [aged] []).outcome (.start []) =
        (.ok second, .start []) ∧
      whole.failures.map (·.code) = ["INTERNAL_ERROR", "REQUIRED"] ∧
      whole.ofFields = first.ofFields ++ second.ofFields ∧ ¬ Meets BreaksOff whole.failures := by
  let l : Level := ⟨[named, aged], [⟨.text "name", .text "Ada"⟩]⟩
  have htexts : l.HasTexts := by
    constructor
    · intro s hs
      have hslugs : s ∈ [.text "name", .text "age"] := hs
      simp only [List.mem_cons, List.not_mem_nil, or_false] at hslugs
      rcases hslugs with rfl | rfl <;> exact ⟨_, rfl⟩
    · intro s hs
      exact ⟨_, List.mem_singleton.1 hs⟩
  have hcaptcha : ∀ siblings, Field.Layer l.fields siblings → ∀ f ∈ siblings, ∀ b,
      f.rules = some b → b.contains RuleKind.captcha.key = false := by
    intro siblings hlayer f hf b hb
    cases hlayer with
    | top =>
      rcases List.mem_cons.1 hf with rfl | hf
      · obtain rfl := Option.some.inj hb
        decide
      · obtain rfl := List.mem_singleton.1 hf
        obtain rfl := Option.some.inj hb
        decide
    | inside hg _ => simp [l, named, aged] at hg
  obtain ⟨⟨_, report, e', hrun, _, hwhole, _⟩, _, happend, _⟩ :=
    check_isolates .newYear l htexts [] (by simp) (.start [])
  obtain ⟨whole, first, second, hall, hfirst, hsecond, hparts⟩ :=
    happend [named] [aged] rfl (List.cons_ne_nil _ _) (List.cons_ne_nil _ _) hcaptcha
  rw [hall] at hrun
  obtain ⟨hreport, _⟩ := Prod.mk.inj hrun
  obtain rfl := Except.ok.inj hreport
  have hcodes : ((check .newYear l.answers l.fields []).outcome (.start [])).1.toOption.map
      (fun r => r.failures.map (·.code)) = some ["INTERNAL_ERROR", "REQUIRED"] := by decide +kernel
  rw [hall] at hcodes
  exact ⟨whole, first, second, hall, hfirst, hsecond, Option.some.inj hcodes, hparts, hwhole⟩

end Intake.Level
