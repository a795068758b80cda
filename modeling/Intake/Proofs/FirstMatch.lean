import Intake.Proofs.Levels
import Intake.Proofs.Values
import Mathlib.Data.List.Nodup
import Mathlib.Logic.Relation

/-! Two submissions checked side by side. What the check reports for the fields comes from the first
answer to each field at the top and from the first upload for each file field, so that submissions
which agree on these have the same failures, once the slugs that nobody declares are taken off. -/

namespace Intake

/-- What a report says of the fields: its failures without those at the head that name the slugs
which are submitted and nobody declares. -/
def Report.ofFields (r : Report) : List Failure :=
  r.failures.dropWhile fun x => x.code == "UNEXPECTED_FIELD"

/-- Two lists of uploads have the same first upload for each file field of a tree. -/
def Field.SameFiles (fields : List Field) (own own' : List Upload) : Prop :=
  ∀ siblings, Field.Layer fields siblings → ∀ f ∈ siblings, f.isFile = true →
    own.find? (fun u => u.fieldName.equal f.slug) = own'.find? fun u => u.fieldName.equal f.slug

namespace Field.SameFiles

variable {fields : List Field} {own own' : List Upload}

theorem below (h : SameFiles fields own own') {a : Attributes} {children : List Field}
    (hg : .group a children ∈ fields) : SameFiles children own own' :=
  fun siblings hs => h siblings (.inside hg hs)

theorem locate_eq (h : SameFiles fields own own') {f : Field} (hf : f ∈ fields)
    (answers : List Answer) :
    Validation.locate f answers own = Validation.locate f answers own' := by
  unfold Validation.locate
  split
  · rename_i hfile
    rw [h fields (.top fields) f hf hfile]
  · rfl

theorem filter (h : SameFiles fields own own') :
    SameFiles fields (own.filter fun u => (slugsOf fields).any u.fieldName.equal)
      (own'.filter fun u => (slugsOf fields).any u.fieldName.equal) := by
  intro siblings hs f hf hfile
  have hslug := hs.slug_mem hf
  rw [Level.find?_filter_declared hslug, Level.find?_filter_declared hslug]
  exact h siblings hs f hf hfile

end Field.SameFiles

structure Submitted where
  answers : List Answer
  uploads : List Upload

structure Submitted.HasTexts (s : Submitted) : Prop where
  slugs : ∀ t ∈ Answer.slugs s.answers, t.IsText
  names : ∀ u ∈ s.uploads, u.fieldName.IsText

namespace Validation
open Intake.Field (SameFiles)

variable {c : Context}

theorem unexpectedFailures_append {declared names : List Value} (slugs : List Value)
    (hkeys : ∀ s ∈ names, s.IsKey) (h : ∀ s ∈ names, declared.any s.equal = true) :
    unexpectedFailures declared (slugs ++ names) = unexpectedFailures declared slugs := by
  induction slugs with
  | nil =>
    have hnone : names.filter (fun s => !declared.any s.equal) = [] := by
      rw [List.filter_eq_nil_iff]
      intro s hs
      simp only [h s hs, Bool.not_true, Bool.false_eq_true, not_false_eq_true]
    rw [List.nil_append, unexpectedFailures_eq hkeys, hnone]
    rfl
  | cons s slugs ih =>
    rw [List.cons_append, unexpectedFailures, unexpectedFailures, ih]

theorem slugFailures_of_declared {fields : List Field} (answers : List Answer) {own : List Upload}
    (hu : ∀ u ∈ own, u.fieldName.IsKey)
    (h : ∀ u ∈ own, (Field.slugsOf fields).any u.fieldName.equal = true) :
    slugFailures fields answers own = slugFailures fields answers [] := by
  unfold slugFailures
  cases hkeys : asKeys (Field.slugsOf fields) with
  | error f => rfl
  | ok declared =>
    obtain rfl := eq_of_asKeys hkeys
    have happend := unexpectedFailures_append (Answer.slugs answers)
      (List.forall_mem_map.2 hu) (List.forall_mem_map.2 h)
    rw [List.map_nil, List.append_nil]
    exact happend

theorem levelFailures_eq {fields : List Field} (h : fields ≠ []) (answers : List Answer)
    (own : List Upload) :
    levelFailures c answers own fields = (do
      let slugs ← Run.ofExcept (slugFailures fields answers own)
      return slugs ++ (← restFailures c answers own fields)) := by
  cases fields with
  | nil => exact absurd rfl h
  | cons f fs =>
    unfold levelFailures
    rw [restFailures]
    simp only [bind_assoc, pure_bind, List.append_assoc]

theorem leaf_congr {answers answers' : List Answer} {own own' : List Upload} {f : Field}
    (hf : f.isGroup = false) (h : locate f answers own = locate f answers' own') :
    fieldFailures c answers own f = fieldFailures c answers' own' f := by
  cases f with
  | group a children => cases hf
  | _ =>
    unfold fieldFailures
    rw [h]

mutual

/-- The check of a field looks at the value located for it, and for a group at the first uploads of
the file fields in it. -/
theorem fieldFailures_congr {answers answers' : List Answer} {own own' : List Upload} (f : Field)
    (hu : ∀ u ∈ own, u.fieldName.IsKey) (hu' : ∀ u ∈ own', u.fieldName.IsKey)
    (hvalue : locate f answers own = locate f answers' own')
    (hfiles : ∀ a children, f = .group a children → SameFiles children own own') :
    fieldFailures c answers own f = fieldFailures c answers' own' f := by
  match f with
  | .group a children =>
    unfold fieldFailures
    rw [hvalue]
    refine Run.ofExcept_bind_congr fun declared hdeclared => ?_
    obtain rfl := eq_of_asKeys hdeclared
    rw [uploadsFor_eq hu, uploadsFor_eq hu']
    have hlevel := levelFailures_congr
      ((Answer.group? (locate (.group a children) answers' own')).getD []) children
      (fun u hmem => hu u (List.mem_filter.1 hmem).1)
        (fun u hmem => hu' u (List.mem_filter.1 hmem).1)
      (fun u hmem => (List.mem_filter.1 hmem).2) (fun u hmem => (List.mem_filter.1 hmem).2)
      (hfiles a children rfl).filter
    -- what is left of both is the check of the level below, and then that of the group's own value
    have hpassed : ∀ (x : List Upload) (k : List Upload → Run (List Failure)),
        Run.ofExcept (.ok x) >>= k = k x := fun _ _ => rfl
    rw [hpassed, hpassed, hlevel]
  | .leaf t a => exact leaf_congr rfl hvalue
  | .unknown t a => exact leaf_congr rfl hvalue
  | .select a choices => exact leaf_congr rfl hvalue
termination_by structural f

/-- Inside a group all uploads are for declared slugs, so that not even these can differ. -/
theorem levelFailures_congr {own own' : List Upload} (answers : List Answer) (fields : List Field)
    (hu : ∀ u ∈ own, u.fieldName.IsKey) (hu' : ∀ u ∈ own', u.fieldName.IsKey)
    (hdeclared : ∀ u ∈ own, (Field.slugsOf fields).any u.fieldName.equal = true)
    (hdeclared' : ∀ u ∈ own', (Field.slugsOf fields).any u.fieldName.equal = true)
    (hfiles : SameFiles fields own own') :
    levelFailures c answers own fields = levelFailures c answers own' fields := by
  have hvalue := fun f hf => hfiles.locate_eq (f := f) hf answers
  match fields with
  | [] => rfl
  | f :: fs =>
    have hbelow : ∀ a children, f = .group a children → SameFiles children own own' := by
      rintro a children rfl
      exact hfiles.below List.mem_cons_self
    have hfirst := fieldFailures_congr f hu hu' (hvalue f List.mem_cons_self) hbelow
    have hrest := restFailures_congr fs hu hu'
      (fun g hg => hvalue g (List.mem_cons_of_mem _ hg))
      fun a children hg => hfiles.below (List.mem_cons_of_mem _ hg)
    unfold levelFailures
    rw [slugFailures_of_declared answers hu hdeclared,
      slugFailures_of_declared answers hu' hdeclared',
      hfirst, hrest]
termination_by structural fields

theorem restFailures_congr {answers answers' : List Answer} {own own' : List Upload}
    (fs : List Field) (hu : ∀ u ∈ own, u.fieldName.IsKey) (hu' : ∀ u ∈ own', u.fieldName.IsKey)
    (hvalue : ∀ f ∈ fs, locate f answers own = locate f answers' own')
    (hfiles : ∀ a children, .group a children ∈ fs → SameFiles children own own') :
    restFailures c answers own fs = restFailures c answers' own' fs := by
  match fs with
  | [] => rfl
  | f :: fs =>
    have hbelow : ∀ a children, f = .group a children → SameFiles children own own' := by
      rintro a children rfl
      exact hfiles a children List.mem_cons_self
    have hfirst := fieldFailures_congr f hu hu' (hvalue f List.mem_cons_self) hbelow
    have hrest := restFailures_congr fs hu hu'
      (fun g hg => hvalue g (List.mem_cons_of_mem _ hg))
      fun a children hg => hfiles a children (List.mem_cons_of_mem _ hg)
    unfold restFailures
    rw [hfirst, hrest]
termination_by structural fs

end

def StartsWithField (failures : List Failure) : Prop :=
  ∀ x ∈ failures.head?, x.code ≠ "UNEXPECTED_FIELD"

theorem StartsWithField.append {xs ys : List Failure} (hx : StartsWithField xs)
    (hy : StartsWithField ys) : StartsWithField (xs ++ ys) := by
  cases xs with
  | nil => exact hy
  | cons x xs => exact hx

theorem ofFields_eq {r : Report} {slugs : List Value} {failures : List Failure}
    (h : r.failures = slugs.map unexpected ++ failures) (hstart : StartsWithField failures) :
    r.ofFields = failures := by
  have hslugs : ∀ x ∈ slugs.map unexpected, (x.code == "UNEXPECTED_FIELD") = true := by
    intro x hx
    obtain ⟨s, _, rfl⟩ := List.mem_map.1 hx
    rfl
  unfold Report.ofFields
  rw [h, List.dropWhile_append_of_pos hslugs]
  cases failures with
  | nil => rfl
  | cons x failures =>
    have hx : ¬ (x.code == "UNEXPECTED_FIELD") = true := by
      rw [beq_iff_eq]
      exact hstart x rfl
    rw [List.dropWhile_cons, if_neg hx]

theorem guardedFailures_starts (slug value : Value) (bag : RuleBag) (isGroup : Bool) :
    (guardedFailures c slug value bag isGroup).Gives StartsWithField := by
  intro e own e' hrun x hx
  have hmem : x ∈ own := List.mem_of_mem_head? hx
  exact (guardedFailures_code c slug value bag isGroup e own e' hrun x hmem).2

theorem underGroup_starts (slug : Value) (below : List Failure) :
    StartsWithField (underGroup slug below) := by
  unfold underGroup
  split
  · exact nofun
  · intro x hx
    obtain rfl := Option.some.inj hx
    exact show "GROUP_INVALID" ≠ "UNEXPECTED_FIELD" by decide

theorem fieldFailures_starts (answers : List Answer) (own : List Upload) (f : Field) :
    (fieldFailures c answers own f).Gives StartsWithField := by
  cases f with
  | group a children =>
    unfold fieldFailures
    refine (Run.gives_true _).bind fun declared _ => (Run.gives_true _).bind fun passed _ => ?_
    refine (Run.gives_true _).bind fun below _ => ?_
    refine (guardedFailures_starts _ _ _ _).bind fun leaf hleaf => Run.gives_pure ?_
    exact (underGroup_starts a.slug below).append hleaf
  | _ => exact guardedFailures_starts _ _ _ _

theorem restFailures_starts (answers : List Answer) (own : List Upload) (fs : List Field) :
    (restFailures c answers own fs).Gives StartsWithField := by
  induction fs with
  | nil => exact Run.gives_pure nofun
  | cons f fs ih =>
    unfold restFailures
    refine (fieldFailures_starts answers own f).bind fun here hhere => ?_
    exact ih.bind fun rest hrest => Run.gives_pure (hhere.append hrest)

def formFailures (c : Context) (answers : List Answer) (uploads : List Upload)
    (fields : List Field) : Run (List Failure) :=
  Run.orElse (do
    let _ ← Run.ofExcept (asKeys (Field.slugsOf fields))
    restFailures c answers uploads fields) fun f => [formFault f]

theorem slugFailures_cases (fields : List Field) {s : Submitted} (hs : s.HasTexts) :
    (∃ f, asKeys (Field.slugsOf fields) = .error f ∧
      slugFailures fields s.answers s.uploads = .error f) ∨
    ∃ declared slugs, asKeys (Field.slugsOf fields) = .ok declared ∧
      slugFailures fields s.answers s.uploads = .ok (List.map unexpected slugs) := by
  unfold slugFailures
  cases hkeys : asKeys (Field.slugsOf fields) with
  | error f => exact .inl ⟨f, rfl, rfl⟩
  | ok declared =>
    right
    have hsubmitted : ∀ t ∈ Answer.slugs s.answers ++ s.uploads.map (·.fieldName), t.IsKey := by
      refine List.forall_mem_append.2 ⟨fun t ht => (hs.slugs t ht).isKey, ?_⟩
      exact List.forall_mem_map.2 fun u hu => (hs.names u hu).isKey
    exact ⟨declared, _, rfl, unexpectedFailures_eq hsubmitted⟩

theorem check_ofFields {fields : List Field} (hne : fields ≠ []) {s : Submitted} (hs : s.HasTexts)
    (e : Captcha.Exchange) :
    ∃ report e', (check c s.answers fields s.uploads).outcome e = (.ok report, e') ∧
      (formFailures c s.answers s.uploads fields).outcome e = (.ok report.ofFields, e') := by
  have hstart := restFailures_starts (c := c) s.answers s.uploads fields
  rw [Level.check_outcome, levelFailures_eq hne, formFailures, Run.outcome_orElse]
  rcases slugFailures_cases fields hs with ⟨f, hkeys, hslugs⟩ | ⟨declared, slugs, hkeys, hslugs⟩
  · rw [hkeys, hslugs]
    exact ⟨_, e, rfl, rfl⟩
  · rw [hkeys, hslugs, Run.outcome_bind_ok (Run.outcome_ofExcept _ e),
      Run.outcome_bind_ok (Run.outcome_ofExcept _ e)]
    rcases hrest : (restFailures c s.answers s.uploads fields).outcome e with ⟨f | failures, e'⟩
    · rw [Run.outcome_bind_error hrest]
      exact ⟨_, e', rfl, rfl⟩
    · rw [Run.outcome_bind_ok hrest]
      refine ⟨⟨slugs.map unexpected ++ failures⟩, e', rfl, ?_⟩
      rw [ofFields_eq rfl (hstart e failures e' hrest)]

theorem formFailures_congr (fields : List Field) {s t : Submitted} (hs : s.HasTexts)
    (ht : t.HasTexts)
    (hvalue : ∀ f ∈ fields, locate f s.answers s.uploads = locate f t.answers t.uploads)
    (hfiles : SameFiles fields s.uploads t.uploads) :
    formFailures c s.answers s.uploads fields = formFailures c t.answers t.uploads fields := by
  unfold formFailures
  have hkeys : ∀ u ∈ s.uploads, u.fieldName.IsKey := fun u hu => (hs.names u hu).isKey
  have hkeys' : ∀ u ∈ t.uploads, u.fieldName.IsKey := fun u hu => (ht.names u hu).isKey
  rw [restFailures_congr fields hkeys hkeys' hvalue fun a children hg => hfiles.below hg]

end Validation

namespace Submitted
open Validation

/-- Every field at the top that takes no files has the same first answer in both, if any, and every
file field at any depth has the same first upload. -/
structure SameFirst (fields : List Field) (s t : Submitted) : Prop where
  answers : ∀ f ∈ fields, f.isFile = false →
    (s.answers.find? fun a => a.slug.equal f.slug).map (·.value) =
      (t.answers.find? fun a => a.slug.equal f.slug).map (·.value)
  uploads : Field.SameFiles fields s.uploads t.uploads

/-- Changes of a submission: answers with distinct slugs are put in another order, an answer or
upload is added at the end under a slug that is there already, or anywhere under one that nobody
declares. -/
inductive Edit (fields : List Field) : Submitted → Submitted → Prop
  | permute {answers answers' : List Answer} (uploads : List Upload) (h : answers.Perm answers')
      (hdistinct : (answers.map (·.slug)).Nodup) :
        Edit fields ⟨answers, uploads⟩ ⟨answers', uploads⟩
  | repeatAnswer {answers : List Answer} {a : Answer} (uploads : List Upload)
      (h : a.slug ∈ answers.map (·.slug)) :
      Edit fields ⟨answers, uploads⟩ ⟨answers ++ [a], uploads⟩
  | repeatUpload {uploads : List Upload} {u : Upload} (answers : List Answer)
      (h : u.fieldName ∈ uploads.map (·.fieldName)) :
      Edit fields ⟨answers, uploads⟩ ⟨answers, uploads ++ [u]⟩
  | strayAnswer {a : Answer} (before after : List Answer) (uploads : List Upload)
      (h : a.slug ∉ fields.map Field.slug) :
      Edit fields ⟨before ++ after, uploads⟩ ⟨before ++ a :: after, uploads⟩
  | strayUpload {u : Upload} (answers : List Answer) (before after : List Upload)
      (h : u.fieldName ∉ Field.slugsOf fields) :
      Edit fields ⟨answers, before ++ after⟩ ⟨answers, before ++ u :: after⟩

theorem SameFirst.locate_eq {fields : List Field} {s t : Submitted} (h : SameFirst fields s t)
    {f : Field} (hf : f ∈ fields) :
    locate f s.answers s.uploads = locate f t.answers t.uploads := by
  unfold locate
  cases hfile : f.isFile with
  | true =>
    rw [if_pos rfl, if_pos rfl, h.uploads fields (.top fields) f hf hfile]
  | false =>
    rw [if_neg Bool.false_ne_true, if_neg Bool.false_ne_true, h.answers f hf hfile]

theorem SameFirst.refl (fields : List Field) (s : Submitted) : SameFirst fields s s :=
  ⟨fun _ _ _ => rfl, fun _ _ _ _ _ => rfl⟩

theorem SameFirst.trans {fields : List Field} {s t u : Submitted} (h : SameFirst fields s t)
    (h' : SameFirst fields t u) : SameFirst fields s u where
  answers := fun f hf hfile => (h.answers f hf hfile).trans (h'.answers f hf hfile)
  uploads := fun siblings hs f hf hfile =>
    (h.uploads siblings hs f hf hfile).trans (h'.uploads siblings hs f hf hfile)

/-- From every exchange the checks of two submissions make the same requests and report the same of
the fields. -/
def SameVerdicts (c : Context) (fields : List Field) (s t : Submitted) : Prop :=
  ∀ e, ∃ report report' e', (check c s.answers fields s.uploads).outcome e = (.ok report, e') ∧
    (check c t.answers fields t.uploads).outcome e = (.ok report', e') ∧
      report.ofFields = report'.ofFields

theorem SameFirst.sameVerdicts {fields : List Field} {s t : Submitted} (h : SameFirst fields s t)
    (hs : s.HasTexts) (ht : t.HasTexts) (c : Context) : SameVerdicts c fields s t := by
  intro e
  cases fields with
  | nil => exact ⟨⟨[noFields]⟩, ⟨[noFields]⟩, e, rfl, rfl, rfl⟩
  | cons f fs =>
    have hne := List.cons_ne_nil f fs
    have hcongr := formFailures_congr (c := c) (f :: fs) hs ht (fun _ hg => h.locate_eq hg)
      h.uploads
    obtain ⟨report, e₁, hrun, hfields⟩ := check_ofFields (c := c) hne hs e
    obtain ⟨report', e₂, hrun', hfields'⟩ := check_ofFields (c := c) hne ht e
    rw [hcongr, hfields'] at hfields
    obtain ⟨heq, rfl⟩ := Prod.mk.inj hfields
    exact ⟨report, report', e₂, hrun, hrun', (Except.ok.inj heq).symm⟩

section
variable {α : Type} {p : α → Bool}

theorem find?_concat_of_mem {xs : List α} {a : α} (h : p a = true → ∃ b ∈ xs, p b = true) :
    (xs ++ [a]).find? p = xs.find? p := by
  rw [List.find?_append]
  cases hx : xs.find? p with
  | some b => rfl
  | none =>
    have ha : ¬ p a = true := by
      intro ha
      obtain ⟨b, hb, hpb⟩ := h ha
      exact List.find?_eq_none.1 hx b hb hpb
    simp [ha]

theorem find?_insert_of_not {xs ys : List α} {a : α} (h : ¬ p a = true) :
    (xs ++ a :: ys).find? p = (xs ++ ys).find? p := by
  rw [List.find?_append, List.find?_append, List.find?_cons_of_neg h]

end

theorem Edit.hasTexts {fields : List Field} {s t : Submitted} (h : Edit fields s t)
    (ht : t.HasTexts) : s.HasTexts := by
  obtain ⟨hslugs, hnames⟩ := ht
  have hsub : ∀ {xs ys : List Answer}, xs ⊆ ys → (∀ t ∈ Answer.slugs ys, t.IsText) →
      ∀ t ∈ Answer.slugs xs, t.IsText := by
    intro xs ys hxs hys t ht
    obtain ⟨a, ha, hmem⟩ := List.mem_flatMap.1 ht
    exact hys t (List.mem_flatMap.2 ⟨a, hxs ha, hmem⟩)
  cases h with
  | permute uploads h hdistinct => exact ⟨hsub h.subset hslugs, hnames⟩
  | repeatAnswer uploads h => exact ⟨hsub (List.subset_append_left _ _) hslugs, hnames⟩
  | repeatUpload answers h => exact ⟨hslugs, fun u hu => hnames u (List.mem_append_left _ hu)⟩
  | @strayAnswer a before after uploads h =>
    have hadded := (List.sublist_cons_self a after).append_left before
    exact ⟨hsub hadded.subset hslugs, hnames⟩
  | @strayUpload u answers before after h =>
    have hadded := (List.sublist_cons_self u after).append_left before
    exact ⟨hslugs, fun u hu => hnames u (hadded.subset hu)⟩

theorem Edit.sameFirst {fields : List Field} {s t : Submitted} (h : Edit fields s t)
    (ht : t.HasTexts) : SameFirst fields s t := by
  have htext : ∀ a ∈ t.answers, a.slug.IsText := fun a ha => ht.slugs _ (Answer.slug_mem_slugs ha)
  cases h with
  | @permute answers answers' uploads h hdistinct =>
    refine ⟨fun f _ _ => congrArg _ (find?_eq_of_perm h ?_), fun _ _ _ _ _ => rfl⟩
    intro a ha b hb hfa hfb
    have hslug := (htext a (h.mem_iff.1 ha)).equal_iff.1 hfa
    have hslug' := (htext b (h.mem_iff.1 hb)).equal_iff.1 hfb
    exact List.inj_on_of_nodup_map hdistinct ha hb (hslug.symm.trans hslug')
  | @repeatAnswer answers a uploads h =>
    refine ⟨fun f _ _ => congrArg _ (find?_concat_of_mem fun hfa => ?_).symm, fun _ _ _ _ _ => rfl⟩
    obtain ⟨b, hb, hslug⟩ := List.mem_map.1 h
    exact ⟨b, hb, by rw [hslug, hfa]⟩
  | @repeatUpload uploads u answers h =>
    refine ⟨fun _ _ _ => rfl, fun siblings _ f _ _ => (find?_concat_of_mem fun hfu => ?_).symm⟩
    obtain ⟨v, hv, hname⟩ := List.mem_map.1 h
    exact ⟨v, hv, by rw [hname, hfu]⟩
  | @strayAnswer a before after uploads h =>
    refine ⟨fun f hf _ => congrArg _ (find?_insert_of_not fun hfa => ?_).symm, fun _ _ _ _ _ => rfl⟩
    have hslug := (htext a (List.mem_append_right _ List.mem_cons_self)).equal_iff.1 hfa
    exact h (List.mem_map.2 ⟨f, hf, hslug⟩)
  | @strayUpload u answers before after h =>
    refine ⟨fun _ _ _ => rfl, fun siblings hs f hf _ => (find?_insert_of_not fun hfu => ?_).symm⟩
    have hname := (ht.names u (List.mem_append_right _ List.mem_cons_self)).equal_iff.1 hfu
    exact h (hname ▸ hs.slug_mem hf)

theorem sameFirst_of_edits {fields : List Field} {s t : Submitted}
    (h : Relation.ReflTransGen (Edit fields) s t) (ht : t.HasTexts) :
    s.HasTexts ∧ SameFirst fields s t := by
  -- from the last change back, since that slugs are texts is known of the last submission
  induction h using Relation.ReflTransGen.head_induction_on with
  | refl => exact ⟨ht, .refl fields t⟩
  | head hedit _ ih =>
    obtain ⟨htexts, hsame⟩ := ih
    exact ⟨hedit.hasTexts htexts, (hedit.sameFirst htexts).trans hsame⟩

end Submitted

namespace Validation
open Submitted

/-- Submissions that agree on the first answer to each field at the top and on the first upload for
each file field have the same verdicts on all fields, and the check of both makes the same requests.
So a submission keeps its verdicts when answers with distinct slugs change places, when slugs are
submitted again, and when answers or uploads are added that nobody declares. -/
theorem check_sameVerdicts (c : Context) (fields : List Field) {t : Submitted} (ht : t.HasTexts) :
    (∀ s, s.HasTexts → SameFirst fields s t → SameVerdicts c fields s t) ∧
      ∀ s, Relation.ReflTransGen (Edit fields) s t → SameVerdicts c fields s t := by
  refine ⟨fun s hs h => h.sameVerdicts hs ht c, fun s h => ?_⟩
  obtain ⟨hs, hsame⟩ := sameFirst_of_edits h ht
  exact hsame.sameVerdicts hs ht c

def trips : List Field :=
  [.leaf .text (.ofRules "name" []),
    .group (.ofRules "trip" []) [.leaf .file (.ofRules "ticket" [])]]

def ann : Answer := ⟨.text "name", .text "Ann"⟩

def trip : Answer := ⟨.text "trip", .list []⟩

def ticket (size : Value) : Upload := ⟨.text "ticket", .text "image/png", size, .null, .null⟩

/-- The answers change places, then the name is answered again with a hat that nobody asks for, and
a second ticket is uploaded. -/
theorem check_sameVerdicts_trips :
    SameVerdicts .newYear trips ⟨[trip, ann], [ticket (.int 1)]⟩
      ⟨[ann, ⟨.text "hat", .null⟩, trip, ⟨.text "name", .text "Bob"⟩],
        [ticket (.int 1), ticket (.text "large")]⟩ := by
  have htexts : Submitted.HasTexts
      ⟨[ann, ⟨.text "hat", .null⟩, trip, ⟨.text "name", .text "Bob"⟩],
        [ticket (.int 1), ticket (.text "large")]⟩ := by
    constructor
    · intro s hs
      have hslugs : s ∈ [.text "name", .text "hat", .text "trip", .text "name"] := hs
      simp only [List.mem_cons, List.not_mem_nil, or_false] at hslugs
      rcases hslugs with rfl | rfl | rfl | rfl <;> exact ⟨_, rfl⟩
    · intro u hu
      simp only [List.mem_cons, List.not_mem_nil, or_false] at hu
      rcases hu with rfl | rfl <;> exact ⟨_, rfl⟩
  have hdistinct : ([trip, ann].map (·.slug)).Nodup := by
    simp [trip, ann]
  have hrepeated : Value.text "name" ∈ [ann, trip].map (·.slug) := List.mem_cons_self
  have hhat : Value.text "hat" ∉ trips.map Field.slug := by
    simp [trips, Field.slug, Field.attributes, Attributes.ofRules]
  have hticket : (ticket (.text "large")).fieldName ∈ [ticket (.int 1)].map (·.fieldName) :=
    List.mem_cons_self
  refine (check_sameVerdicts .newYear trips htexts).2 _ ?_
  refine .head (.permute _ (.swap ann trip []) hdistinct) ?_
  refine .head (.repeatAnswer _ (a := ⟨.text "name", .text "Bob"⟩) hrepeated) ?_
  refine .head (.strayAnswer (a := ⟨.text "hat", .null⟩) [ann] _ _ hhat) ?_
  exact .single (.repeatUpload _ hticket)

end Validation

end Intake
