import Intake.Proofs.Definitions
import Intake.Proofs.Validity

/-! Values that pass. Where no failure is reported for a field, its own check has ended without any,
and so has the check of every rule that was applied to the value found for it or to its elements. -/

namespace Intake

variable {names : Pattern.Names}

namespace Run

def Passes (r : Run (List Failure)) : Prop := ∃ e e', r.outcome e = (.ok [], e')

theorem Passes.of_bind {α : Type} {r : Run α} {k : α → Run (List Failure)} (h : (r >>= k).Passes) :
    ∃ x, (∃ e e', r.outcome e = (.ok x, e')) ∧ (k x).Passes := by
  obtain ⟨e, e', h⟩ := h
  rcases hr : r.outcome e with ⟨f | x, e₁⟩
  · rw [outcome_bind_error hr] at h
    cases h
  · rw [outcome_bind_ok hr] at h
    exact ⟨x, ⟨e, e₁, hr⟩, e₁, e', h⟩

@[simp]
theorem passes_pure_iff {xs : List Failure} : (pure xs : Run (List Failure)).Passes ↔ xs = [] := by
  constructor
  · rintro ⟨e, e', h⟩
    exact Except.ok.inj (Prod.mk.inj h).1
  · rintro rfl
    exact ⟨.start [], .start [], rfl⟩

theorem Passes.of_append {r s : Run (List Failure)}
    (h : (do let here ← r; return here ++ (← s) : Run (List Failure)).Passes) :
    r.Passes ∧ s.Passes := by
  obtain ⟨here, ⟨e, e₁, hr⟩, h⟩ := h.of_bind
  obtain ⟨rest, ⟨e₂, e₃, hs⟩, h⟩ := h.of_bind
  obtain ⟨rfl, rfl⟩ := List.append_eq_nil_iff.1 (passes_pure_iff.1 h)
  exact ⟨⟨e, e₁, hr⟩, e₂, e₃, hs⟩

end Run

def RuleBag.LetsThrough (b : RuleBag) (v : Value) : Prop :=
  b.optsOut = true ∧ Validation.isEmpty v = true

/-- The rule for lists lets a list in, whatever its elements are. -/
def RuleBag.Admits (b : RuleBag) (v : Value) : Prop :=
  ∃ r, b.get? RuleKind.array.key = some r ∧ r.truthy = true ∧
    Check.array v (Validation.withoutShorthand r) = .ok []

namespace Validation
open Run

variable {c : Context} {slug : Value}

theorem rulesFailures_passes {v : Value} {rules : List (Value × Rule)}
    (h : (rulesFailures c slug v rules).Passes) :
    ∀ r ∈ rules, (ruleFailures c slug v r.1 r.2).Passes := by
  induction rules with
  | nil => exact fun r hr => nomatch hr
  | cons r rules ih =>
    obtain ⟨hr, hrest⟩ := h.of_append
    exact List.forall_mem_cons.2 ⟨hr, ih hrest⟩

theorem ruleFailures_passes {kind : RuleKind} {v : Value} {r : Rule}
    (h : (ruleFailures c slug v kind.key r).Passes) :
    ∃ e e', (messages c kind v r).outcome e = (.ok [], e') := by
  unfold ruleFailures at h
  rw [RuleKind.ofKey?_eq_some_iff.2 rfl] at h
  simp only [map_eq_pure_bind] at h
  obtain ⟨ms, ⟨e, e', hms⟩, h⟩ := h.of_bind
  obtain rfl := List.map_eq_nil_iff.1 (passes_pure_iff.1 h)
  exact ⟨e, e', hms⟩

theorem messages_of_passes {b : RuleBag} {kind : RuleKind} {v : Value} {r : Rule}
    (h : (rulesFailures c slug v b.rules).Passes) (hr : b.get? kind.key = some r) :
    ∃ e e', (messages c kind v r).outcome e = (.ok [], e') :=
  ruleFailures_passes (rulesFailures_passes h _ (RuleBag.mem_of_get? hr))

theorem elementFailures_passes {b : RuleBag} {x : Value}
    (h : (elementFailures c slug b x).Passes) :
    b.LetsThrough x ∨ (rulesFailures c slug x b.rules).Passes := by
  unfold elementFailures at h
  split at h
  · rename_i hout
    exact .inl (Bool.and_eq_true_iff.1 hout)
  · split at h
    · exact absurd (passes_pure_iff.1 h) (List.cons_ne_nil _ _)
    · exact .inr h

theorem elementsFailures_passes {b : RuleBag} {xs : List Value}
    (h : (elementsFailures c slug b xs).Passes) :
    ∀ x ∈ xs, b.LetsThrough x ∨ (rulesFailures c slug x b.rules).Passes := by
  induction xs with
  | nil => exact fun x hx => nomatch hx
  | cons x xs ih =>
    obtain ⟨hx, hrest⟩ := h.of_append
    exact List.forall_mem_cons.2 ⟨elementFailures_passes hx, ih hrest⟩

theorem listFailures_passes {b : RuleBag} {v : Value} {xs : List Value}
    (h : (listFailures c slug v b xs).Passes) :
    b.Admits v ∧ (elementsFailures c slug (b.erase RuleKind.array.key) xs).Passes := by
  unfold listFailures at h
  cases hrule : b.get? RuleKind.array.key with
  | none =>
    rw [hrule] at h
    exact absurd (passes_pure_iff.1 h) (List.cons_ne_nil _ _)
  | some r =>
    by_cases ht : r.truthy = true
    · simp only [hrule, ht, Bool.not_true, Bool.false_eq_true, if_false] at h
      obtain ⟨whole, ⟨e, e', hwhole⟩, h⟩ := h.of_bind
      obtain ⟨rest, ⟨e₁, e₂, hrest⟩, h⟩ := h.of_bind
      obtain ⟨hmap, rfl⟩ := List.append_eq_nil_iff.1 (passes_pure_iff.1 h)
      obtain rfl := List.map_eq_nil_iff.1 hmap
      rw [outcome_ofExcept] at hwhole
      exact ⟨⟨r, hrule, ht, (Prod.mk.inj hwhole).1⟩, e₁, e₂, hrest⟩
    · simp only [hrule, ht, Bool.not_false, if_true] at h
      exact absurd (passes_pure_iff.1 h) (List.cons_ne_nil _ _)

/-- A value passes that is let through, that all rules pass, or that is a list let in whose elements
are let through or pass all rules but that for lists. -/
theorem valueFailures_passes {b : RuleBag} {v : Value}
    (h : (valueFailures c slug v b false).Passes) :
    b.LetsThrough v ∨ v.elements? = none ∧ (rulesFailures c slug v b.rules).Passes ∨
      ∃ xs, v.elements? = some xs ∧ b.Admits v ∧ ∀ x ∈ xs, b.LetsThrough x ∨
        (rulesFailures c slug x (b.erase RuleKind.array.key).rules).Passes := by
  unfold valueFailures at h
  split at h
  · rename_i hout
    exact .inl (Bool.and_eq_true_iff.1 hout)
  · right
    cases hv : v.elements? with
    | none =>
      rw [hv] at h
      exact .inl ⟨rfl, h⟩
    | some xs =>
      rw [hv] at h
      obtain ⟨hadmits, helements⟩ := listFailures_passes h
      have hpasses := elementsFailures_passes helements
      unfold RuleBag.LetsThrough at hpasses
      rw [RuleBag.optsOut_erase_array] at hpasses
      exact .inr ⟨xs, rfl, hadmits, hpasses⟩

/-- A failure says that a fault has broken off the check of the form or of a group. -/
def BreaksOff (x : Failure) : Prop := (∃ f, x = formFault f) ∨ ∃ s, x = groupFault s

theorem BreaksOff.code {x : Failure} (h : BreaksOff x) : x.code = "INTERNAL_ERROR" := by
  rcases h with ⟨f, rfl⟩ | ⟨s, rfl⟩
  · rfl
  · rfl

theorem internalFailure_not_breaksOff (slug : Value) : ¬ BreaksOff (internalFailure slug) := by
  have hfirst : ∀ x, BreaksOff x → x.message.toList.head? = some 'A' := by
    rintro x (⟨f, rfl⟩ | ⟨s, rfl⟩)
    · simp [formFault]
    · simp [groupFault, toString]
  intro h
  have hmessage := hfirst _ h
  simp [internalFailure, failure, toString] at hmessage

end Validation

namespace Level
open Validation

variable (c : Context) (uploads : List Upload)

def Reports (l : Level) (f : Field) (failures : List Failure) : Prop :=
  ∃ own e e', ((l.ownCheck c uploads f).orElse fun _ => [internalFailure f.slug]).outcome e =
    (.ok own, e') ∧ own ⊆ failures

/-- The failures hold what is reported at every level reached, unless the form or a group has been
broken off. -/
def ReportsAll (l : Level) (failures : List Failure) : Prop :=
  ¬ Meets BreaksOff failures → ∀ m f, l.Reaches m → f ∈ m.fields → m.Reports c uploads f failures

def ReportsField (l : Level) (f : Field) (failures : List Failure) : Prop :=
  l.Reports c uploads f failures ∧ ∀ a children, f = .group a children →
    (l.below a children).ReportsAll c uploads failures

/-- No failure is reported for a field with a slug. That the slug is submitted where nobody declares
it is no failure of the field. -/
def Unreported (slug : Value) (failures : List Failure) : Prop :=
  ∀ x ∈ failures, x.slug = slug → x.code = "UNEXPECTED_FIELD"

variable {c uploads}

theorem Reports.mono {l : Level} {f : Field} {xs ys : List Failure} (h : l.Reports c uploads f xs)
    (hsub : xs ⊆ ys) : l.Reports c uploads f ys := by
  obtain ⟨own, e, e', hown, hmem⟩ := h
  exact ⟨own, e, e', hown, fun x hx => hsub (hmem hx)⟩

theorem ReportsAll.mono {l : Level} {xs ys : List Failure} (h : l.ReportsAll c uploads xs)
    (hsub : xs ⊆ ys) : l.ReportsAll c uploads ys := by
  intro hwhole m f hm hf
  have hbefore : ¬ Meets BreaksOff xs := fun ⟨x, hx, hoff⟩ => hwhole ⟨x, hsub hx, hoff⟩
  exact (h hbefore m f hm hf).mono hsub

theorem ReportsField.mono {l : Level} {f : Field} {xs ys : List Failure}
    (h : l.ReportsField c uploads f xs) (hsub : xs ⊆ ys) : l.ReportsField c uploads f ys :=
  ⟨h.1.mono hsub, fun a children hf => (h.2 a children hf).mono hsub⟩

theorem reportsAll_of_fields {l : Level} {failures : List Failure}
    (h : ∀ f ∈ l.fields, l.ReportsField c uploads f failures) :
    l.ReportsAll c uploads failures := by
  intro hwhole m f hm hf
  cases hm with
  | here => exact (h f hf).1
  | down hg hm => exact (h _ hg).2 _ _ rfl hwhole m f hm hf

theorem reportsAll_of_breaksOff {l : Level} {x : Failure} (h : BreaksOff x) :
    l.ReportsAll c uploads [x] :=
  fun hwhole => absurd ⟨x, List.mem_singleton.2 rfl, h⟩ hwhole

theorem subset_underGroup (slug : Value) (failures : List Failure) :
    failures ⊆ underGroup slug failures := by
  intro x hx
  unfold underGroup
  split
  · rename_i hempty
    rw [List.isEmpty_iff.1 hempty] at hx
    cases hx
  · exact List.mem_cons_of_mem _ hx

theorem guardedFailures_reports (l : Level) {own : List Upload} {f : Field}
    (hsame : SameUploads f.slugs own uploads) :
    (guardedFailures c f.slug (locate f l.answers own) (effectiveRules f (locate f l.answers own))
      f.isGroup).Gives (l.Reports c uploads f) := by
  rw [hsame.locate_eq (Field.slug_mem_slugs f)]
  exact fun e own e' hown => ⟨own, e, e', hown, fun x hx => hx⟩

theorem leaf_reports {l : Level} {own : List Upload} {f : Field} (hf : f.isGroup = false)
    (hsame : SameUploads f.slugs own uploads)
    (heq : fieldFailures c l.answers own f = guardedFailures c f.slug (locate f l.answers own)
      (effectiveRules f (locate f l.answers own)) false) :
    (fieldFailures c l.answers own f).Gives (l.ReportsField c uploads f) := by
  have hown := guardedFailures_reports (c := c) l hsame
  rw [hf] at hown
  rw [heq]
  intro e failures e' h
  refine ⟨hown e failures e' h, ?_⟩
  rintro a children rfl
  cases hf

mutual

theorem fieldFailures_reports (l : Level) (own : List Upload) (f : Field)
    (hsame : SameUploads f.slugs own uploads) :
    (fieldFailures c l.answers own f).Gives (l.ReportsField c uploads f) := by
  match f with
  | .group a children =>
    have hown := guardedFailures_reports (c := c) l hsame
    unfold fieldFailures
    refine (Run.gives_ofExcept _).bind fun declared hdeclared =>
      (Run.gives_ofExcept _).bind fun passed hpassed => ?_
    obtain rfl := eq_of_asKeys hdeclared
    obtain rfl := eq_of_uploadsFor hpassed
    have hlevel := levelFailures_reports (l.below a children).answers _ children
      (hsame.filter fun _ hs => List.mem_cons_of_mem _ hs)
    have hbelow := hlevel.orElse (fun _ => [groupFault a.slug])
      fun _ => reportsAll_of_breaksOff (.inr ⟨_, rfl⟩)
    refine hbelow.bind fun inner hinner => hown.bind fun here hhere => Run.gives_pure ⟨?_, ?_⟩
    · exact hhere.mono fun x hx => List.mem_append_right _ hx
    · rintro _ _ ⟨⟩
      exact hinner.mono fun x hx => List.mem_append_left _ (subset_underGroup _ _ hx)
  | .leaf t a => exact leaf_reports rfl hsame rfl
  | .unknown t a => exact leaf_reports rfl hsame rfl
  | .select a choices => exact leaf_reports rfl hsame rfl
termination_by structural f

theorem levelFailures_reports (answers : List Answer) (own : List Upload) (fields : List Field)
    (hsame : SameUploads (Field.slugsOf fields) own uploads) :
    (levelFailures c answers own fields).Gives
      (ReportsAll c uploads ⟨fields, answers⟩) := by
  match fields with
  | [] => exact Run.gives_pure (reportsAll_of_fields fun f hf => nomatch hf)
  | f :: fs =>
    have hfirst := fieldFailures_reports ⟨f :: fs, answers⟩ own f
      fun s hs => hsame s (List.mem_append_left _ hs)
    have hrest := restFailures_reports ⟨f :: fs, answers⟩ own fs
      fun s hs => hsame s (List.mem_append_right _ hs)
    unfold levelFailures
    refine (Run.gives_true _).bind fun slugs _ => hfirst.bind fun here hhere =>
      hrest.bind fun rest hfields => Run.gives_pure (reportsAll_of_fields ?_)
    refine List.forall_mem_cons.2 ⟨hhere.mono ?_, fun g hg => (hfields g hg).mono ?_⟩
    · exact fun x hx => List.mem_append_left _ (List.mem_append_right _ hx)
    · exact fun x hx => List.mem_append_right _ hx
termination_by structural fields

theorem restFailures_reports (l : Level) (own : List Upload) (fs : List Field)
    (hsame : SameUploads (Field.slugsOf fs) own uploads) :
    (restFailures c l.answers own fs).Gives
      fun failures => ∀ f ∈ fs, l.ReportsField c uploads f failures := by
  match fs with
  | [] => exact Run.gives_pure fun f hf => nomatch hf
  | f :: fs =>
    have hfirst := fieldFailures_reports l own f fun s hs => hsame s (List.mem_append_left _ hs)
    have hrest := restFailures_reports l own fs fun s hs => hsame s (List.mem_append_right _ hs)
    unfold restFailures
    refine hfirst.bind fun here hhere => hrest.bind fun rest hfields => Run.gives_pure ?_
    refine List.forall_mem_cons.2 ⟨hhere.mono ?_, fun g hg => (hfields g hg).mono ?_⟩
    · exact fun x hx => List.mem_append_left _ hx
    · exact fun x hx => List.mem_append_right _ hx
termination_by structural fs

end

theorem Reports.passes {l : Level} {f : Field} {failures : List Failure}
    (h : l.Reports c uploads f failures) (hnone : Unreported f.slug failures) :
    (l.ownCheck c uploads f).Passes := by
  obtain ⟨own, e, e', hown, hsub⟩ := h
  rcases Run.orElse_cases hown with hcheck | ⟨fault, _, rfl⟩
  · cases own with
    | nil => exact ⟨e, e', hcheck⟩
    | cons x own =>
      have hx := valueFailures_gives c f.slug _ _ _ e _ e' hcheck x List.mem_cons_self
      exact absurd (hnone x (hsub List.mem_cons_self) hx.1) (isOwn_code hx).2.2
  · have hunexpected := hnone _ (hsub List.mem_cons_self) rfl
    exact absurd hunexpected (show "INTERNAL_ERROR" ≠ "UNEXPECTED_FIELD" by decide)

theorem own_not_breaksOff {l : Level} {f : Field} {own : List Failure} {e e' : Captcha.Exchange}
    (hown : ((l.ownCheck c uploads f).orElse fun _ => [internalFailure f.slug]).outcome e =
      (.ok own, e')) : ¬ Meets BreaksOff own := by
  rintro ⟨x, hx, hoff⟩
  rcases guardedFailures_gives c f.slug _ _ _ e own e' hown with rfl | hgiven
  · obtain rfl := List.mem_singleton.1 hx
    exact internalFailure_not_breaksOff f.slug hoff
  · exact (isOwn_code (hgiven x hx)).2.1 hoff.code

theorem breaksOff_report {l : Level} (names : List Value) {failures : List Failure}
    (h : l.fields = [] → failures = []) :
    Meets BreaksOff (l.report names failures) ↔ Meets BreaksOff failures := by
  apply meets_report_iff
  · exact fun hoff => absurd hoff.code (show "NO_FIELDS" ≠ "INTERNAL_ERROR" by decide)
  · exact fun s hoff => absurd hoff.code (show "UNEXPECTED_FIELD" ≠ "INTERNAL_ERROR" by decide)
  · exact h

theorem Visit.not_breaksOff {l : Level} {fs : List Field} {e e' : Captcha.Exchange}
    {failures : List Failure} (hv : Visit c uploads l fs e failures e') :
    ¬ Meets BreaksOff failures := by
  induction hv with
  | done => exact not_meets_nil
  | leaf _ hown _ ih =>
    rw [meets_append_iff]
    exact not_or.2 ⟨own_not_breaksOff hown, ih⟩
  | @group l a children fs e e₁ e₂ e₃ inner own rest hinner hown hrest ihinner ihrest =>
    have hgroup : ¬ BreaksOff (groupFailure a.slug) :=
      fun hoff => absurd hoff.code (show "GROUP_INVALID" ≠ "INTERNAL_ERROR" by decide)
    have hreport : ¬ Meets BreaksOff ((l.below a children).report [] inner) := by
      rw [breaksOff_report]
      · exact ihinner
      · rintro (rfl : children = [])
        exact hinner.eq_nil_of_nil
    rw [meets_append_iff, meets_append_iff, meets_underGroup_iff]
    rintro (((⟨_, hoff⟩ | hoff) | hoff) | hoff)
    · exact hgroup hoff
    · exact hreport hoff
    · exact own_not_breaksOff hown hoff
    · exact ihrest hoff

theorem Visit.report_not_breaksOff {l : Level} {e e' : Captcha.Exchange} {failures : List Failure}
    (hv : Visit c uploads l l.fields e failures e') (names : List Value) :
    ¬ Meets BreaksOff (l.report names failures) := by
  rw [breaksOff_report names hv.eq_nil_of_empty]
  exact hv.not_breaksOff

/-- The check of a form has a report. No fault breaks it off where slugs and names are texts; and
where none does, the own check has passed of every field for which the report holds no failure. -/
theorem check_passes (l : Level) (uploads : List Upload) (e : Captcha.Exchange) :
    ∃ report e', (check c l.answers l.fields uploads).outcome e = (.ok report, e') ∧
      (l.HasTexts → (∀ u ∈ uploads, u.fieldName.IsText) → ¬ Meets BreaksOff report.failures) ∧
      (¬ Meets BreaksOff report.failures → ∀ m f, l.Reaches m → f ∈ m.fields →
        Unreported f.slug report.failures → (m.ownCheck c uploads f).Passes) := by
  obtain ⟨failures, e', hguarded⟩ := Run.exists_outcome_orElse
    (levelFailures c l.answers uploads l.fields) (fun f => [formFault f]) e
  have hrun : (check c l.answers l.fields uploads).outcome e = (.ok ⟨failures⟩, e') :=
    Run.outcome_bind_ok hguarded
  refine ⟨⟨failures⟩, e', hrun, fun hl hu => ?_, fun hwhole m f hm hf hnone => ?_⟩
  · obtain ⟨visited, e₁, hvisited, hvisit⟩ := check_visit (c := c) hl hu e
    rw [hrun, Prod.mk.injEq, Except.ok.injEq, Report.mk.injEq] at hvisited
    rw [hvisited.1]
    exact hvisit.report_not_breaksOff _
  · have hlevel := (levelFailures_reports (c := c) l.answers uploads l.fields fun _ _ => rfl).orElse
      (fun f => [formFault f]) fun f => reportsAll_of_breaksOff (.inl ⟨f, rfl⟩)
    exact (hlevel e failures e' hguarded hwhole m f hm hf).passes hnone

end Level

namespace RuleBag

/-- An empty list that the rule for lists lets in: the other rules have no element to be applied
to. -/
def PassesOver (b : RuleBag) (v : Value) : Prop := v.elements? = some [] ∧ b.Admits v

def Requires (b : RuleBag) : Prop := b.required = some (.plain (.bool true))

def HasValues (b : RuleBag) : Prop := (b.get? RuleKind.values.key).any Rule.truthy = true

theorem Requires.not_optsOut {b : RuleBag} (h : b.Requires) : b.optsOut = false := by
  unfold optsOut
  rw [h]
  rfl

end RuleBag

namespace Validation
open Run

variable {c : Context} {slug : Value}

theorem get?_withChoices {f : Field} {b : RuleBag} {kind : RuleKind} (h : kind ≠ .values) :
    (withChoices f b).get? kind.key = b.get? kind.key := by
  unfold withChoices
  split
  · split
    · rfl
    · exact RuleBag.get?_insert_of_ne b h _
  · rfl

theorem get?_withList {f : Field} {v : Value} {b : RuleBag} {kind : RuleKind}
    (h : kind ≠ .array) : (withList f v b).get? kind.key = b.get? kind.key := by
  unfold withList
  split
  · exact RuleBag.get?_insert_of_ne b h _
  · rfl

theorem get?_effectiveRules {kind : RuleKind} (hvalues : kind ≠ .values) (harray : kind ≠ .array)
    (f : Field) (v : Value) :
    (effectiveRules f v).get? kind.key = (f.rules.getD .empty).get? kind.key := by
  unfold effectiveRules
  rw [get?_withList harray, get?_withChoices hvalues]

@[simp, grind =] theorem required_effectiveRules (f : Field) (v : Value) :
    (effectiveRules f v).required = (f.rules.getD .empty).required :=
  get?_effectiveRules (by decide) (by decide) f v

theorem fieldFailures_of_isGroup {f : Field} (hf : f.isGroup = false) (answers : List Answer)
    (uploads : List Upload) :
    fieldFailures c answers uploads f = guardedFailures c f.slug (locate f answers uploads)
      (effectiveRules f (locate f answers uploads)) false := by
  cases f with
  | group a children => cases hf
  | _ => rfl

theorem passesOver_of_passes {b : RuleBag} {v : Value} (hrequires : b.Requires)
    (hmissing : Check.isMissing v = true) (h : (valueFailures c slug v b false).Passes) :
    b.PassesOver v := by
  rcases valueFailures_passes h with ⟨hout, _⟩ | ⟨_, hpasses⟩ | ⟨xs, hxs, hadmits, _⟩
  · rw [hrequires.not_optsOut] at hout
    cases hout
  -- the rule is applied to the value itself, and reports it
  · have hrule : b.get? RuleKind.required.key = some (.plain (.bool true)) := hrequires
    obtain ⟨e, e', hmessages⟩ := messages_of_passes hpasses hrule
    have hreported : Check.required v false = [] := Except.ok.inj (Prod.mk.inj hmessages).1
    unfold Check.required at hreported
    rw [hmissing] at hreported
    cases hreported
  · refine ⟨?_, hadmits⟩
    cases v with
    | list ys | tuple ys =>
      obtain rfl : ys = [] := List.isEmpty_iff.1 hmissing
      rfl
    | _ => cases hxs

theorem valueFailures_of_passesOver {b : RuleBag} {v : Value} (h : b.PassesOver v)
    (e : Captcha.Exchange) : (valueFailures c slug v b false).outcome e = (.ok [], e) := by
  obtain ⟨hv, r, hrule, ht, hwhole⟩ := h
  have hempty := isEmpty_of_elements? hv
  unfold valueFailures listFailures
  simp only [hv, hempty, hrule, ht, hwhole, Bool.and_false, Bool.not_true, Bool.false_eq_true,
    if_false]
  rfl

/-- A missing value that is required is reported, except for an empty list that is let in. -/
theorem guardedFailures_missing (c : Context) (slug : Value) {b : RuleBag} {v : Value}
    (hrequires : b.Requires) (hmissing : Check.isMissing v = true) (e : Captcha.Exchange) :
    ∃ own e', (guardedFailures c slug v b false).outcome e = (.ok own, e') ∧
      (own = [] ↔ b.PassesOver v) := by
  obtain ⟨own, e', hout⟩ := exists_outcome_orElse (valueFailures c slug v b false)
    (fun _ => [internalFailure slug]) e
  refine ⟨own, e', hout, ?_, fun hover => ?_⟩
  · rintro rfl
    rcases orElse_cases hout with hcheck | ⟨f, _, hnil⟩
    · exact passesOver_of_passes hrequires hmissing ⟨e, e', hcheck⟩
    · cases hnil
  · have hnone := outcome_orElse (valueFailures c slug v b false)
      (fun _ => [internalFailure slug]) e
    rw [valueFailures_of_passesOver hover] at hnone
    exact Except.ok.inj (Prod.mk.inj (hout.symm.trans hnone)).1

/-- A value that counts as missing where it is required is reported, be it checked on its own or
found for a field of a form that no fault breaks off. The one exception is an empty list which the
rule for lists lets in: no other rule is applied to it. -/
theorem missing_passes_iff (c : Context) {b : RuleBag}
    (hrequired : b.required = some (.plain (.bool true))) {v : Value}
    (hmissing : Check.isMissing v = true) :
    (∀ slug e, ∃ report e', (checkInput c v slug b).outcome e = (.ok report, e') ∧
      (report.isValid = true ↔ b.PassesOver v)) ∧
    (∀ f answers uploads e, Field.isGroup f = false → f.rules = some b →
      locate f answers uploads = v →
        ∃ own e', (fieldFailures c answers uploads f).outcome e = (.ok own, e') ∧
          (own = [] ↔ (effectiveRules f v).PassesOver v)) ∧
    ∀ fields answers uploads e,
      ∃ report e', (check c answers fields uploads).outcome e = (.ok report, e') ∧
        (Level.HasTexts ⟨fields, answers⟩ → (∀ u ∈ uploads, u.fieldName.IsText) →
          ¬ Meets BreaksOff report.failures) ∧
        (¬ Meets BreaksOff report.failures → ∀ m f, Level.Reaches ⟨fields, answers⟩ m →
          f ∈ m.fields → f.isGroup = false → f.rules = some b → m.value uploads f = v →
            Level.Unreported f.slug report.failures → (m.rules uploads f).PassesOver v) := by
  have heffective : ∀ f : Field, f.rules = some b → (effectiveRules f v).Requires := by
    intro f hf
    unfold RuleBag.Requires
    rw [required_effectiveRules, hf]
    exact hrequired
  refine ⟨fun slug e => ?_, fun f answers uploads e hleaf hf hv => ?_,
    fun fields answers uploads e => ?_⟩
  · obtain ⟨own, e', hout, hown⟩ := guardedFailures_missing c slug hrequired hmissing e
    exact ⟨⟨own⟩, e', outcome_bind_ok hout, List.isEmpty_iff.trans hown⟩
  · rw [fieldFailures_of_isGroup hleaf, hv]
    exact guardedFailures_missing c f.slug (heffective f hf) hmissing e
  · obtain ⟨report, e', hrun, htexts, hpasses⟩ :=
      Level.check_passes (c := c) ⟨fields, answers⟩ uploads e
    refine ⟨report, e', hrun, htexts, fun hwhole m f hm hf hleaf hrules hv hnone => ?_⟩
    have hown := hpasses hwhole m f hm hf hnone
    unfold Level.ownCheck at hown
    rw [hleaf] at hown
    unfold Level.rules at hown ⊢
    rw [hv] at hown ⊢
    exact passesOver_of_passes (heffective f hrules) hmissing hown

def tags : Field :=
  .leaf .text { Attributes.ofRules "tags" [(.required, .plain (.bool true))] with
    allowMultiple := true }

/-- An empty list passes where a value is required: beside a rule for lists, and for a field that
takes several values. -/
theorem missing_passes_iff_tags :
    Check.isMissing (.list []) = true ∧
    (∃ report e', (checkInput .newYear (.list []) (.text "tags")
        ⟨[(RuleKind.required.key, .plain (.bool true)),
          (RuleKind.array.key, .plain (.bool true))]⟩).outcome (.start []) = (.ok report, e') ∧
      report.isValid = true) ∧
    ∃ e', (fieldFailures .newYear [⟨.text "tags", .list []⟩] [] tags).outcome (.start []) =
      (.ok [], e') := by
  let bag : RuleBag := ⟨[(RuleKind.required.key, .plain (.bool true)),
    (RuleKind.array.key, .plain (.bool true))]⟩
  have hover : bag.PassesOver (.list []) := ⟨rfl, .plain (.bool true), rfl, rfl, rfl⟩
  obtain ⟨report, e', hrun, hvalid⟩ :=
    (missing_passes_iff .newYear (b := bag) rfl (v := .list []) rfl).1 (.text "tags") (.start [])
  have heffective : (effectiveRules tags (.list [])).PassesOver (.list []) :=
    ⟨rfl, .plain (.bool true), rfl, rfl, rfl⟩
  obtain ⟨own, e₁, hown, hnil⟩ := (missing_passes_iff .newYear
    (b := ⟨[(RuleKind.required.key, .plain (.bool true))]⟩) rfl (v := .list []) rfl).2.1 tags
    [⟨.text "tags", .list []⟩] [] (.start []) rfl rfl rfl
  rw [hnil.2 heffective] at hown
  exact ⟨rfl, ⟨report, e', hrun, hvalid.2 hover⟩, e₁, hown⟩

def Chosen (choices : List Choice) (b : RuleBag) (v : Value) : Prop :=
  v ∈ choices.map (·.value) ∨ b.LetsThrough v

theorem mem_of_values {v : Value} {choices : List Choice} (hne : choices ≠ [])
    (hfilled : ∀ choice ∈ choices, choice.value.IsFilled)
    (h : Check.values v (.list (choices.map (·.value))) = .ok []) :
    v ∈ choices.map (·.value) := by
  have hnonempty : (choices.map (·.value)).isEmpty = false := by
    cases choices with
    | nil => exact absurd rfl hne
    | cons _ _ => rfl
  unfold Check.values at h
  simp only [Value.elements?, hnonempty, Bool.false_or] at h
  split at h
  · rename_i hany
    obtain ⟨w, hw, hsame⟩ := List.any_eq_true.1 hany
    obtain ⟨choice, hchoice, rfl⟩ := List.mem_map.1 hw
    obtain ⟨s, hs, _⟩ := hfilled choice hchoice
    have hequal := (Bool.and_eq_true_iff.1 hsame).2
    rw [hs] at hequal
    rw [Value.equal_text_iff.1 hequal, ← hs]
    exact hw
  · obtain ⟨t, _, h⟩ := bind_eq_ok.1 h
    cases h

theorem chosen_of_passes {b : RuleBag} {v : Value} {choices : List Choice} (hne : choices ≠ [])
    (hfilled : ∀ choice ∈ choices, choice.value.IsFilled)
    (hvalues : b.get? RuleKind.values.key = some (.plain (.list (choices.map (·.value)))))
    (h : (valueFailures c slug v b false).Passes) :
    Chosen choices b v ∨ ∃ xs, v.elements? = some xs ∧ ∀ x ∈ xs, Chosen choices b x := by
  have hmem : ∀ (b' : RuleBag) (x : Value), b'.get? RuleKind.values.key =
      some (.plain (.list (choices.map (·.value)))) → (rulesFailures c slug x b'.rules).Passes →
        x ∈ choices.map (·.value) := by
    intro b' x hb' hpasses
    obtain ⟨e, e', hmessages⟩ := messages_of_passes hpasses hb'
    exact mem_of_values hne hfilled (Prod.mk.inj ((outcome_ofExcept _ e).symm.trans hmessages)).1
  rcases valueFailures_passes h with hout | ⟨_, hpasses⟩ | ⟨xs, hxs, _, hpasses⟩
  · exact .inl (.inr hout)
  · exact .inl (.inl (hmem b v hvalues hpasses))
  · refine .inr ⟨xs, hxs, fun x hx => ?_⟩
    rcases hpasses x hx with hout | hpasses
    · exact .inr hout
    · have herase :=
        (RuleBag.get?_erase_of_ne (b := b) (show RuleKind.values ≠ .array by decide)).trans
        hvalues
      exact .inl (hmem _ x herase hpasses)

@[simp, grind =] theorem optsOut_effectiveRules (f : Field) (v : Value) :
    (effectiveRules f v).optsOut = (f.rules.getD .empty).optsOut := by
  unfold RuleBag.optsOut
  rw [required_effectiveRules]

theorem get?_values_effectiveRules {a : Attributes} {choices : List Choice} (v : Value)
    (hopen : ¬ (a.rules.getD .empty).HasValues) :
    (effectiveRules (.select a choices) v).get? RuleKind.values.key =
      some (.plain (.list (choices.map (·.value)))) := by
  have hchoices : withChoices (.select a choices) (a.rules.getD .empty) =
      (a.rules.getD .empty).insert RuleKind.values.key
        (.plain (.list (choices.map (·.value)))) := if_neg hopen
  unfold effectiveRules
  rw [get?_withList (by decide)]
  exact (congrArg (RuleBag.get? · _) hchoices).trans (RuleBag.get?_insert_self _ _ _)

theorem fieldFailures_select {a : Attributes} {choices : List Choice}
    (hvalues : (a.rules.getD .empty).HasValues) (answers : List Answer) (uploads : List Upload) :
    fieldFailures c answers uploads (.select a choices) =
      fieldFailures c answers uploads (.leaf .text a) := by
  have hrules : ∀ v, effectiveRules (.select a choices) v = effectiveRules (.leaf .text a) v := by
    intro v
    have hchoices : withChoices (.select a choices) (a.rules.getD .empty) = a.rules.getD .empty :=
      if_pos hvalues
    exact congrArg (withList (.select a choices) v) hchoices
  rw [fieldFailures_of_isGroup rfl, fieldFailures_of_isGroup rfl, hrules]
  rfl

/-- In a form that is accepted and that no fault breaks off, a select without values of its own for
which nothing is reported has found one of its choices or a list of them, empty values apart where
those are let through. A select with values of its own, be they a list or just true, is checked like
a text: its choices are not looked at. -/
theorem select_passes (c : Context) {fields : List Field} {definition : Report}
    (haccepted : Definition.checkFields names true fields = .ok definition)
    (hvalid : definition.isValid = true) (answers : List Answer) (uploads : List Upload)
    (e : Captcha.Exchange) :
    ∃ report e', (check c answers fields uploads).outcome e = (.ok report, e') ∧
      ((∀ s ∈ Answer.slugs answers, s.IsText) → (∀ u ∈ uploads, u.fieldName.IsText) →
        ¬ Meets BreaksOff report.failures) ∧
      ∀ m a choices, Level.Reaches ⟨fields, answers⟩ m → .select a choices ∈ m.fields →
        (¬ (a.rules.getD .empty).HasValues → ¬ Meets BreaksOff report.failures →
          Level.Unreported a.slug report.failures →
            Chosen choices (a.rules.getD .empty) (m.value uploads (.select a choices)) ∨
              ∃ xs, (m.value uploads (.select a choices)).elements? = some xs ∧
                ∀ x ∈ xs, Chosen choices (a.rules.getD .empty) x) ∧
        ((a.rules.getD .empty).HasValues → ∀ answers uploads,
          fieldFailures c answers uploads (.select a choices) =
            fieldFailures c answers uploads (.leaf .text a)) := by
  have haccepts := Definition.accepts_of_checkFields haccepted hvalid
  obtain ⟨report, e', hrun, htexts, hpasses⟩ :=
    Level.check_passes (c := c) ⟨fields, answers⟩ uploads e
  refine ⟨report, e', hrun, fun hanswers => htexts (haccepts.hasTexts hanswers),
    fun m a choices hm hf => ⟨fun hopen hwhole hnone => ?_, fieldFailures_select⟩⟩
  obtain ⟨hne, hfilled⟩ := (haccepts.wellFormed hm.layer _ hf).choices a choices rfl
  have hchosen := chosen_of_passes hne hfilled (get?_values_effectiveRules _ hopen)
    (hpasses hwhole m (.select a choices) hm hf hnone)
  unfold Chosen RuleBag.LetsThrough at hchosen ⊢
  rw [optsOut_effectiveRules] at hchosen
  exact hchosen

def colors : List Choice := [⟨.text "red", .text "Red"⟩, ⟨.text "green", .text "Green"⟩]

def selects : List Field :=
  [.select (.ofRules "color" []) colors,
    .select (.ofRules "shade" [(.values, .plain (.bool true))]) colors]

/-- The first select has found a choice of its own. The second lets a text through that is none. -/
theorem select_passes_colors :
    ∃ report e', (check .newYear [⟨.text "color", .text "red"⟩, ⟨.text "shade", .text "purple"⟩]
        selects []).outcome (.start []) = (.ok report, e') ∧ report.isValid = true ∧
      Chosen colors .empty (.text "red") ∧
      ¬ Chosen colors ⟨[(RuleKind.values.key, .plain (.bool true))]⟩ (.text "purple") ∧
      ∀ answers uploads, fieldFailures .newYear answers uploads
          (.select (.ofRules "shade" [(.values, .plain (.bool true))]) colors) =
        fieldFailures .newYear answers uploads
          (.leaf .text (.ofRules "shade" [(.values, .plain (.bool true))])) := by
  have haccepted : (Definition.checkFields .none true selects).toOption.map Report.isValid =
      some true := by decide +kernel
  obtain ⟨definition, hdefinition, hdefined⟩ := exists_of_toOption haccepted
  let answers : List Answer := [⟨.text "color", .text "red"⟩, ⟨.text "shade", .text "purple"⟩]
  obtain ⟨report, e', hrun, -, hselects⟩ :=
    select_passes .newYear hdefinition hdefined answers [] (.start [])
  have hempty : ((check .newYear answers selects []).outcome (.start [])).1.toOption.map
      Report.isValid = some true := by decide +kernel
  rw [hrun] at hempty
  have hvalid : report.isValid = true := Option.some.inj hempty
  have hnone : report.failures = [] := List.isEmpty_iff.1 hvalid
  have hwhole : ¬ Meets BreaksOff report.failures := hnone ▸ not_meets_nil
  have hunreported : Level.Unreported (.text "color") report.failures :=
    hnone ▸ fun x hx => nomatch hx
  have hcolor := (hselects _ _ _ (.here _) List.mem_cons_self).1 Bool.false_ne_true hwhole
    hunreported
  have hshade := (hselects _ _ _ (.here _) (List.mem_cons_of_mem _ List.mem_cons_self)).2 rfl
  refine ⟨report, e', hrun, hvalid, ?_, ?_, hshade⟩
  · rcases hcolor with hchosen | ⟨xs, hxs, _⟩
    · exact hchosen
    · cases hxs
  · rintro (hmem | ⟨hout, _⟩)
    · simp [colors] at hmem
    · cases hout

end Validation

end Intake
