import Intake.Proofs.Levels
import Intake.Proofs.Values

/-! When a submission is valid, without recursion: at every level that a chain of groups leads to,
something is declared, nothing else is submitted, and every field passes its own check. A group is
reported where this fails at a level below it. -/

namespace Intake

namespace Run

theorem AsksNothing.orElse_eq_nil_iff {r : Run (List Failure)} (h : r.AsksNothing) {x : Failure}
    {own : List Failure} {e e' : Captcha.Exchange}
    (hown : (r.orElse fun _ => [x]).outcome e = (.ok own, e')) :
    (own = [] ↔ r = pure []) ∧ e' = e := by
  obtain ⟨y, rfl⟩ := h
  rcases orElse_cases hown with hout | ⟨f, hout, rfl⟩
  · rw [outcome_ofExcept] at hout
    obtain ⟨rfl, rfl⟩ := Prod.mk.inj hout
    refine ⟨⟨fun hnil => hnil ▸ rfl, fun heq => ?_⟩, rfl⟩
    have hpure := congrArg (fun r => (r.outcome e).1) heq
    exact Except.ok.inj hpure
  · rw [outcome_ofExcept] at hout
    obtain ⟨rfl, rfl⟩ := Prod.mk.inj hout
    refine ⟨iff_of_false (List.cons_ne_nil x []) fun heq => ?_, rfl⟩
    have hpure := congrArg (fun r => (r.outcome e).1) heq
    cases hpure

end Run

namespace Level
open Validation

variable (c : Context) (uploads : List Upload)

/-- A level declares fields, holds answers to none but them and those below, and every field passes
its own check. -/
structure Fits (l : Level) : Prop where
  declares : l.fields ≠ []
  expects : ∀ s ∈ Answer.slugs l.answers, s ∈ Field.slugsOf l.fields
  passes : ∀ f ∈ l.fields, l.ownCheck c uploads f = pure []

/-- Every level that chains of groups lead to fits. -/
def FitsThroughout (l : Level) : Prop := ∀ m, l.Reaches m → m.Fits c uploads

def AsksNothing (l : Level) : Prop :=
  ∀ m, l.Reaches m → ∀ f ∈ m.fields, (m.ownCheck c uploads f).AsksNothing

def FieldFits (l : Level) (f : Field) : Prop :=
  l.ownCheck c uploads f = pure [] ∧
    ∀ a children, f = .group a children → (l.below a children).FitsThroughout c uploads

variable {c uploads}

theorem fitsThroughout_iff {l : Level} :
    l.FitsThroughout c uploads ↔ l.fields ≠ [] ∧
      (∀ s ∈ Answer.slugs l.answers, s ∈ Field.slugsOf l.fields) ∧
      ∀ f ∈ l.fields, l.FieldFits c uploads f := by
  unfold FitsThroughout
  rw [forall_reaches_iff]
  constructor
  · rintro ⟨⟨hne, hslugs, hpass⟩, hbelow⟩
    refine ⟨hne, hslugs, fun f hf => ⟨hpass f hf, ?_⟩⟩
    rintro a children rfl
    exact hbelow a children hf
  · rintro ⟨hne, hslugs, hf⟩
    refine ⟨⟨hne, hslugs, fun f hmem => (hf f hmem).1⟩, fun a children hg => ?_⟩
    exact (hf _ hg).2 a children rfl

theorem report_eq_nil_iff {l : Level} (hl : l.HasTexts) (names : List Value)
    (hnames : ∀ s ∈ names, s.IsText) {failures : List Failure}
    (h : failures = [] ↔ ∀ f ∈ l.fields, l.FieldFits c uploads f) :
    l.report names failures = [] ↔
      (∀ s ∈ names, s ∈ Field.slugsOf l.fields) ∧ l.FitsThroughout c uploads := by
  rw [fitsThroughout_iff]
  unfold report
  split
  · rename_i hempty
    simp [List.isEmpty_iff.1 hempty]
  · rename_i hne
    have hdeclared : ∀ s ∈ Answer.slugs l.answers ++ names,
        ((Field.slugsOf l.fields).any s.equal = true ↔ s ∈ Field.slugsOf l.fields) := by
      intro s hs
      refine Value.IsText.any_equal_iff ?_ _
      exact (List.mem_append.1 hs).elim (hl.submitted s) (hnames s)
    rw [List.append_eq_nil_iff, List.map_eq_nil_iff, List.filter_eq_nil_iff, h]
    simp only [Bool.not_eq_true', Bool.not_eq_false]
    constructor
    · rintro ⟨hslugs, hf⟩
      have hmem := fun s hs => (hdeclared s hs).1 (hslugs s hs)
      exact ⟨fun s hs => hmem s (List.mem_append_right _ hs), fun hnil => hne (by simp [hnil]),
        fun s hs => hmem s (List.mem_append_left _ hs), hf⟩
    · rintro ⟨hnames', -, hslugs, hf⟩
      refine ⟨fun s hs => (hdeclared s hs).2 ?_, hf⟩
      exact (List.mem_append.1 hs).elim (hslugs s) (hnames' s)

@[simp] theorem underGroup_eq_nil_iff {slug : Value} {failures : List Failure} :
    underGroup slug failures = [] ↔ failures = [] := by
  cases failures <;> simp [underGroup]

theorem Visit.eq_nil_iff {l : Level} {fs : List Field} {e e' : Captcha.Exchange}
    {failures : List Failure} (hv : Visit c uploads l fs e failures e') (hl : l.HasTexts)
    (hq : l.AsksNothing c uploads) (hsub : fs ⊆ l.fields) :
    (failures = [] ↔ ∀ f ∈ fs, l.FieldFits c uploads f) ∧ e' = e := by
  -- since the exchange never moves on, each check runs from where the visit began
  induction hv with
  | done => simp
  | @leaf l f fs e e₁ e₂ own rest hf hown hrest ih =>
    have hmem := hsub List.mem_cons_self
    obtain ⟨hnil, rfl⟩ := (hq l (.here l) f hmem).orElse_eq_nil_iff hown
    obtain ⟨hrestnil, rfl⟩ := ih hl hq fun g hg => hsub (List.mem_cons_of_mem _ hg)
    have hfits : l.FieldFits c uploads f ↔ l.ownCheck c uploads f = pure [] := by
      refine ⟨And.left, fun h => ⟨h, ?_⟩⟩
      rintro a children rfl
      cases hf
    rw [List.append_eq_nil_iff, hnil, hrestnil, List.forall_mem_cons, hfits]
    exact ⟨Iff.rfl, rfl⟩
  | @group l a children fs e e₁ e₂ e₃ inner own rest hinner hown hrest ihinner ihrest =>
    have hmem := hsub List.mem_cons_self
    obtain ⟨hinnernil, rfl⟩ := ihinner (hl.below hmem) (fun m hm => hq m (.down hmem hm))
      fun _ hg => hg
    obtain ⟨hnil, rfl⟩ := (hq l (.here l) _ hmem).orElse_eq_nil_iff hown
    obtain ⟨hrestnil, rfl⟩ := ihrest hl hq fun g hg => hsub (List.mem_cons_of_mem _ hg)
    have hreport := report_eq_nil_iff (hl.below hmem) [] (by simp) hinnernil
    have hfits : l.FieldFits c uploads (.group a children) ↔
        (l.below a children).FitsThroughout c uploads ∧
          l.ownCheck c uploads (.group a children) = pure [] := by
      unfold FieldFits
      rw [Field.forall_group_eq_iff, and_comm]
    rw [List.append_eq_nil_iff, List.append_eq_nil_iff, underGroup_eq_nil_iff, hreport, hnil,
      hrestnil, List.forall_mem_cons, hfits]
    simp

variable (c uploads) in
/-- Where no field of a tree has a captcha rule, no own check asks anything. -/
theorem asksNothing_of_layers {l : Level} (h : ∀ fs, Field.Layer l.fields fs → ∀ f ∈ fs,
    ∀ b, f.rules = some b → b.contains RuleKind.captcha.key = false) :
    l.AsksNothing c uploads := by
  intro m hm f hf
  apply valueFailures_asksNothing
  apply captcha_not_mem_effectiveRules
  intro b hb hmem
  have hnone := h m.fields hm.layer f hf b hb
  rw [RuleBag.contains_key_iff.2 hmem] at hnone
  cases hnone

/-- A failure says of the group with a slug that it is not valid. -/
def Names (s : Value) (x : Failure) : Prop := x.slug = s ∧ x.code = "GROUP_INVALID"

end Level

namespace Validation

end Validation

end Intake
