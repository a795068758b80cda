import Intake.Proofs.FirstMatch
import Intake.Proofs.Passing

/-! Several uploads under one name. The check of a form looks at the first of them: where the report
is valid, that one has passed the rule for files of its field. Those after it are expected like the
first, and whatever else they are the report is the same. -/

namespace Intake

variable {names : Pattern.Names}

namespace Validation
open Run
open Intake.Field (SameFiles)

variable {c : Context}

theorem isKey_of_slugFailures {fields : List Field} {answers : List Answer} {own : List Upload}
    {xs : List Failure} (h : slugFailures fields answers own = .ok xs) :
    ∀ u ∈ own, u.fieldName.IsKey := by
  unfold slugFailures at h
  obtain ⟨declared, _, h⟩ := bind_eq_ok.1 h
  have hkeys := isKey_of_unexpectedFailures h
  intro u hu
  exact hkeys _ (List.mem_append_right _ (List.mem_map_of_mem hu))

theorem slugFailures_congr {own own' : List Upload}
    (h : own.map (·.fieldName) = own'.map (·.fieldName)) (fields : List Field)
    (answers : List Answer) :
    slugFailures fields answers own = slugFailures fields answers own' := by
  unfold slugFailures
  rw [h]

/-- The check of a form looks at the names of all uploads, and at nothing else of those that are not
the first for a file field. -/
theorem check_congr {fields : List Field} {own own' : List Upload}
    (hnames : own.map (·.fieldName) = own'.map (·.fieldName)) (hfiles : SameFiles fields own own')
    (answers : List Answer) : check c answers fields own = check c answers fields own' := by
  have hlevel : levelFailures c answers own fields = levelFailures c answers own' fields := by
    by_cases hne : fields = []
    · subst hne
      rfl
    · rw [levelFailures_eq hne, levelFailures_eq hne, slugFailures_congr hnames]
      refine ofExcept_bind_congr fun slugs hslugs => ?_
      -- a name that cannot be looked up would have ended the check before the fields
      have hkeys' := isKey_of_slugFailures hslugs
      rw [← slugFailures_congr hnames] at hslugs
      have hkeys := isKey_of_slugFailures hslugs
      rw [restFailures_congr fields hkeys hkeys' (fun f hf => hfiles.locate_eq hf answers)
        fun a children hg => hfiles.below hg]
  unfold check
  rw [hlevel]

end Validation

namespace Upload

section
variable {α : Type} {p : α → Bool}

theorem find?_replace {xs ys : List α} {a b : α} (hab : p a = p b)
    (h : p a = true → ∃ d ∈ xs, p d = true) :
    (xs ++ a :: ys).find? p = (xs ++ b :: ys).find? p := by
  rw [List.find?_append, List.find?_append]
  cases hx : xs.find? p with
  | some d => rfl
  | none =>
    have ha : ¬ p a = true := by
      intro ha
      obtain ⟨d, hd, hpd⟩ := h ha
      exact List.find?_eq_none.1 hx d hd hpd
    have hb : ¬ p b = true := by rwa [← hab]
    rw [List.find?_cons_of_neg ha, List.find?_cons_of_neg hb]

end

theorem sameFiles_of_repeated {before after : List Upload} {u w : Upload}
    (hname : w.fieldName = u.fieldName) (h : ∃ v ∈ before, v.fieldName = u.fieldName)
    (fields : List Field) :
    Field.SameFiles fields (before ++ u :: after) (before ++ w :: after) := by
  intro siblings _ f _ _
  apply find?_replace
  · rw [hname]
  · intro hu
    obtain ⟨v, hv, heq⟩ := h
    exact ⟨v, hv, by rw [heq, hu]⟩

end Upload

namespace Level
open Validation

variable {c : Context} {uploads : List Upload}

theorem value_of_first {l : Level} {f : Field} (hf : f.isFile = true) (htext : f.slug.IsText)
    {before after : List Upload} {u : Upload} (hname : u.fieldName = f.slug)
    (hfirst : ∀ v ∈ before, v.fieldName ≠ f.slug) :
    l.value (before ++ u :: after) f = u.toValue := by
  obtain ⟨s, hs⟩ := htext
  have hnone : before.find? (fun v => v.fieldName.equal f.slug) = none := by
    rw [List.find?_eq_none]
    intro v hv hequal
    rw [hs, Value.equal_text_iff, ← hs] at hequal
    exact hfirst v hv hequal
  have hself : u.fieldName.equal f.slug = true := by
    rw [hname, hs, Value.equal_text_iff]
  have hfind : (before ++ u :: after).find? (fun v => v.fieldName.equal f.slug) = some u := by
    simp [List.find?_append, hnone, hself]
  unfold value locate
  rw [if_pos hf, hfind]
  rfl

theorem file_of_passes {l : Level} {f : Field} (hf : f.isFile = true) {u : Upload}
    (hvalue : l.value uploads f = u.toValue) {b : RuleBag} (hb : f.rules = some b)
    (hwellFormed : b.WellFormed names) {r : Rule} (hr : b.get? RuleKind.file.key = some r)
    (h : (l.ownCheck c uploads f).Passes) : Check.file (some u) r = .ok [] := by
  have hleaf : f.isGroup = false := by
    cases f with
    | group a children => cases hf
    | _ => rfl
  have hrule : (l.rules uploads f).get? RuleKind.file.key = some r := by
    unfold rules
    rw [get?_effectiveRules (by decide) (by decide), hb]
    exact hr
  unfold ownCheck at h
  rw [hleaf, hvalue] at h
  rcases valueFailures_passes h with ⟨_, hempty⟩ | ⟨_, hpasses⟩ | ⟨xs, hxs, _⟩
  -- an upload is no empty value and no list, so that the rules have been applied to it
  · cases hempty
  · obtain ⟨e, e', hmessages⟩ := messages_of_passes hpasses hrule
    obtain ⟨o, rfl, _⟩ := hwellFormed.rule (RuleBag.mem_of_get? hr)
    exact (Prod.mk.inj ((Run.outcome_ofExcept _ e).symm.trans hmessages)).1
  · cases hxs

end Level

namespace Validation

/-- With a form that is accepted the check has a report. Where it is valid, the first upload for a
file field has passed the rule for files that the field declares, at any depth. An upload for the
field after the first is not looked at: whatever else stood in its place, under the same name, the
report and the requests would be the same. -/
theorem check_firstUploads (c : Context) {fields : List Field} {definition : Report}
    (haccepted : Definition.checkFields names true fields = .ok definition)
    (hvalid : definition.isValid = true) (answers : List Answer) (uploads : List Upload)
    (e : Captcha.Exchange) :
    ∃ report e', (check c answers fields uploads).outcome e = (.ok report, e') ∧
      ∀ siblings f before u after, Field.Layer fields siblings → f ∈ siblings → f.isFile = true →
        uploads = before ++ u :: after → u.fieldName = f.slug →
          ((∀ v ∈ before, v.fieldName ≠ f.slug) → report.isValid = true → ∀ b r,
            f.rules = some b → b.get? RuleKind.file.key = some r → Check.file (some u) r = .ok []) ∧
          ((∃ v ∈ before, v.fieldName = f.slug) → ∀ w : Upload, w.fieldName = f.slug →
            (check c answers fields (before ++ w :: after)).outcome e = (.ok report, e')) := by
  have haccepts := Definition.accepts_of_checkFields haccepted hvalid
  obtain ⟨report, e', hrun, -, hpasses⟩ := Level.check_passes (c := c) ⟨fields, answers⟩ uploads e
  refine ⟨report, e', hrun, fun siblings f before u after hlayer hf hfile huploads hname =>
    ⟨fun hfirst hreport b r hb hr => ?_, fun hrepeated w hw => ?_⟩⟩
  · have hnone : report.failures = [] := List.isEmpty_iff.1 hreport
    have hwhole : ¬ Meets BreaksOff report.failures := hnone ▸ not_meets_nil
    have hunreported : Level.Unreported f.slug report.failures := hnone ▸ fun x hx => nomatch hx
    have hwellFormed := haccepts.wellFormed hlayer f hf
    obtain ⟨s, hs, _⟩ := hwellFormed.slug
    obtain ⟨m, hm, rfl⟩ := Level.exists_reaches_of_layer (l := ⟨fields, answers⟩) hlayer
    have hvalue : m.value uploads f = u.toValue := by
      rw [huploads]
      exact Level.value_of_first hfile ⟨s, hs⟩ hname hfirst
    exact Level.file_of_passes hfile hvalue hb (hwellFormed.rules b hb) hr
      (hpasses hwhole m f hm hf hunreported)
  · have hwu : w.fieldName = u.fieldName := hw.trans hname.symm
    have hsame : Field.SameFiles fields uploads (before ++ w :: after) := by
      rw [huploads]
      exact Upload.sameFiles_of_repeated hwu (hname ▸ hrepeated) fields
    have hnames : uploads.map (·.fieldName) = (before ++ w :: after).map (·.fieldName) := by
      rw [huploads, List.map_append, List.map_append, List.map_cons, List.map_cons, hwu]
    rw [← check_congr hnames hsame]
    exact hrun

def photo : Field :=
  .leaf .file (.ofRules "photo" [(.file, .options ⟨.file .null (.int 5), []⟩)])

def photoOf (size : Int) : Upload :=
  ⟨.text "photo", .text "image/png", .int size, .bytes [0], .text "a.png"⟩

/-- Two photos are uploaded, of which the second is too large. The report is valid, as it is for a
second one that is small. -/
theorem check_firstUploads_photos :
    ∃ report e', (check .newYear [] [photo] [photoOf 5, photoOf 9]).outcome (.start []) =
        (.ok report, e') ∧ report.isValid = true ∧
      Check.file (some (photoOf 5)) (.options ⟨.file .null (.int 5), []⟩) = .ok [] ∧
      (Check.file (some (photoOf 9)) (.options ⟨.file .null (.int 5), []⟩)).toOption =
        some ["File size \"9\" exceeds the maximum limit of: 5 bytes"] ∧
      (check .newYear [] [photo] [photoOf 5, photoOf 2]).outcome (.start []) =
        (.ok report, e') := by
  have haccepted : (Definition.checkFields .none true [photo]).toOption.map Report.isValid =
      some true := by decide +kernel
  obtain ⟨definition, hdefinition, hdefined⟩ := exists_of_toOption haccepted
  obtain ⟨report, e', hrun, hphotos⟩ := check_firstUploads .newYear hdefinition hdefined []
    [photoOf 5, photoOf 9] (.start [])
  have hempty : ((check .newYear [] [photo] [photoOf 5, photoOf 9]).outcome
      (.start [])).1.toOption.map Report.isValid = some true := by decide +kernel
  rw [hrun] at hempty
  have hvalid : report.isValid = true := Option.some.inj hempty
  have hfirst := hphotos [photo] photo [] (photoOf 5) [photoOf 9] (.top _) List.mem_cons_self rfl
    rfl rfl
  have hsecond := hphotos [photo] photo [photoOf 5] (photoOf 9) [] (.top _) List.mem_cons_self rfl
    rfl rfl
  refine ⟨report, e', hrun, hvalid, ?_, by decide +kernel, ?_⟩
  · exact hfirst.1 (fun v hv => nomatch hv) hvalid _ _ rfl rfl
  · exact hsecond.2 ⟨_, List.mem_cons_self, rfl⟩ (photoOf 2) rfl

end Validation

end Intake
