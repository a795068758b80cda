import Intake.Proofs.Run
import Intake.Proofs.Texts

/-! The levels of a form that is filled in: the fields declared at one place and the answers given
for them. A group leads from its level to the level below it. Where slugs are texts the check of a
form visits the fields of every level in turn and meets no fault on its way, whatever the checks of
single values do. -/

namespace Intake

namespace Answer

theorem group?_eq_some_iff {v : Value} {inner : List Answer} :
    group? v = some inner ↔ v = .list (inner.map toValue) := by
  cases v with
  | list xs =>
    simp only [group?, Value.list.injEq]
    induction xs generalizing inner with
    | nil => cases inner <;> simp
    | cons x xs ih =>
      cases inner with
      | nil => cases x <;> simp [Option.bind_eq_some_iff]
      | cons a inner =>
        obtain ⟨slug, value⟩ := a
        cases x with
        | answer slug' value' =>
          simp only [List.map_cons, List.cons.injEq, toValue, Value.answer.injEq]
          simp [Option.bind_eq_some_iff, ih]
          exact and_comm
        | _ => simp [toValue]
  | _ => simp [group?]

@[simp]
theorem slugsOfAll_map (inner : List Answer) : slugsOfAll (inner.map toValue) = slugs inner := by
  induction inner with
  | nil => rfl
  | cons a inner ih =>
    simp only [List.map_cons, slugsOfAll, toValue, slugsIn, slugs, List.flatMap_cons]
    rw [ih]
    rfl

@[simp] theorem all_isAnswer (answers : List Answer) :
    (answers.map toValue).all Value.isAnswer = true := by
  simp [List.all_map, toValue, Value.isAnswer]

theorem slugsOfValue_of_group? {v : Value} {inner : List Answer} (h : group? v = some inner) :
    slugsOfValue v = slugs inner := by
  rw [group?_eq_some_iff] at h
  rw [h, slugsOfValue, if_pos (all_isAnswer inner), slugsOfAll_map]

theorem slugs_subset {answers inner : List Answer} {a : Answer} (ha : a ∈ answers)
    (h : group? a.value = some inner) : slugs inner ⊆ slugs answers := by
  intro s hs
  rw [← slugsOfValue_of_group? h] at hs
  exact List.mem_flatMap.2 ⟨a, ha, List.mem_cons_of_mem _ hs⟩

theorem slug_mem_slugs {answers : List Answer} {a : Answer} (ha : a ∈ answers) :
    a.slug ∈ slugs answers :=
  List.mem_flatMap.2 ⟨a, ha, List.mem_cons_self⟩

end Answer

namespace Field

def isGroup : Field → Bool
  | .group .. => true
  | _ => false

theorem slug_mem_slugs (f : Field) : f.slug ∈ f.slugs := by
  cases f <;> exact List.mem_cons_self

theorem exists_group_eq_iff {a : Attributes} {children : List Field}
    {p : Attributes → List Field → Prop} :
    (∃ a' children', Field.group a children = .group a' children' ∧ p a' children') ↔
      p a children := by
  constructor
  · rintro ⟨a', children', heq, h⟩
    obtain ⟨rfl, rfl⟩ := Field.group.inj heq
    exact h
  · exact fun h => ⟨a, children, rfl, h⟩

theorem forall_group_eq_iff {a : Attributes} {children : List Field}
    {p : Attributes → List Field → Prop} :
    (∀ a' children', Field.group a children = .group a' children' → p a' children') ↔
      p a children := by
  constructor
  · exact fun h => h a children rfl
  · intro h a' children' heq
    obtain ⟨rfl, rfl⟩ := Field.group.inj heq
    exact h

theorem mem_slugsOf {fields : List Field} {s : Value} :
    s ∈ slugsOf fields ↔ ∃ f ∈ fields, s ∈ f.slugs := by
  induction fields with
  | nil => simp [slugsOf]
  | cons f fields ih => simp [slugsOf, ih]

theorem slugsOf_subset {fs fields : List Field} (h : fs ⊆ fields) :
    slugsOf fs ⊆ slugsOf fields := by
  intro s hs
  obtain ⟨f, hf, hslug⟩ := mem_slugsOf.1 hs
  exact mem_slugsOf.2 ⟨f, h hf, hslug⟩

theorem slugsOf_children_subset {fields children : List Field} {a : Attributes}
    (hg : .group a children ∈ fields) : slugsOf children ⊆ slugsOf fields :=
  fun _ hs => mem_slugsOf.2 ⟨_, hg, List.mem_cons_of_mem _ hs⟩

/-- The lists of siblings in a tree of fields, at every depth. -/
inductive Layer : List Field → List Field → Prop
  | top (fields : List Field) : Layer fields fields
  | inside {fields siblings children : List Field} {a : Attributes}
      (hg : Field.group a children ∈ fields) (h : Layer children siblings) : Layer fields siblings

theorem exists_layer_iff {fields : List Field} {p : Field → Prop} :
    (∃ siblings f, Layer fields siblings ∧ f ∈ siblings ∧ p f) ↔
      ∃ f ∈ fields, p f ∨ ∃ a children, f = .group a children ∧
        ∃ siblings g, Layer children siblings ∧ g ∈ siblings ∧ p g := by
  constructor
  · rintro ⟨siblings, f, hlayer, hf, hp⟩
    cases hlayer with
    | top => exact ⟨f, hf, .inl hp⟩
    | inside hg hlayer => exact ⟨_, hg, .inr ⟨_, _, rfl, siblings, f, hlayer, hf, hp⟩⟩
  · rintro ⟨f, hf, hp | ⟨a, children, rfl, siblings, g, hlayer, hg, hp⟩⟩
    · exact ⟨fields, f, .top fields, hf, hp⟩
    · exact ⟨siblings, g, .inside hf hlayer, hg, hp⟩

theorem Layer.slug_mem {fields siblings : List Field} (h : Layer fields siblings) {f : Field}
    (hf : f ∈ siblings) : f.slug ∈ slugsOf fields := by
  induction h with
  | top fields => exact mem_slugsOf.2 ⟨f, hf, slug_mem_slugs f⟩
  | inside hg _ ih => exact slugsOf_children_subset hg (ih hf)

mutual

theorem exists_layer_of_mem_slugs {f : Field} {s : Value} (h : s ∈ f.slugs) :
    s = f.slug ∨ ∃ a children siblings g, f = .group a children ∧ Layer children siblings ∧
      g ∈ siblings ∧ g.slug = s := by
  match f with
  | .group a children =>
    rcases List.mem_cons.1 h with rfl | h
    · exact .inl rfl
    · obtain ⟨siblings, g, hlayer, hg, hs⟩ := exists_layer_of_mem_slugsOf h
      exact .inr ⟨a, children, siblings, g, rfl, hlayer, hg, hs⟩
  | .leaf _ a | .unknown _ a | .select a _ => exact .inl (List.mem_singleton.1 h)
termination_by structural f

theorem exists_layer_of_mem_slugsOf {fs : List Field} {s : Value} (h : s ∈ slugsOf fs) :
    ∃ siblings g, Layer fs siblings ∧ g ∈ siblings ∧ g.slug = s := by
  match fs with
  | [] => cases h
  | f :: fs =>
    rcases List.mem_append.1 h with h | h
    · rcases exists_layer_of_mem_slugs h with rfl | ⟨a, children, siblings, g, rfl, hlayer, hg, hs⟩
      · exact ⟨_, f, .top _, List.mem_cons_self, rfl⟩
      · exact ⟨siblings, g, .inside List.mem_cons_self hlayer, hg, hs⟩
    · obtain ⟨siblings, g, hlayer, hg, hs⟩ := exists_layer_of_mem_slugsOf h
      cases hlayer with
      | top => exact ⟨_, g, .top _, List.mem_cons_of_mem _ hg, hs⟩
      | inside hmem hlayer =>
        exact ⟨siblings, g, .inside (List.mem_cons_of_mem _ hmem) hlayer, hg, hs⟩
termination_by structural fs

end

end Field

namespace Validation

def Meets (p : Failure → Prop) (failures : List Failure) : Prop := ∃ x ∈ failures, p x

theorem not_meets_nil {p : Failure → Prop} : ¬ Meets p [] := by
  rintro ⟨x, hx, _⟩
  cases hx

@[simp] theorem meets_append_iff {p : Failure → Prop} {xs ys : List Failure} :
    Meets p (xs ++ ys) ↔ Meets p xs ∨ Meets p ys := by
  unfold Meets
  simp only [List.mem_append, or_and_right, exists_or]

@[simp] theorem meets_underGroup_iff {p : Failure → Prop} {slug : Value} {failures : List Failure} :
    Meets p (underGroup slug failures) ↔
      failures ≠ [] ∧ p (groupFailure slug) ∨ Meets p failures := by
  unfold Meets underGroup
  cases failures with
  | nil => simp
  | cons x xs => simp

end Validation

def Attributes.ofRules (slug : String) (rules : List (RuleKind × Rule)) : Attributes where
  slug := .text slug
  displayName := .text slug
  description := .null
  placeholder := .null
  initial := .null
  suggestions := []
  allowMultiple := false
  rules := some ⟨rules.map fun r => (r.1.key, r.2)⟩
  isPublic := false

/-- Checks on a first of January with a client opened for each request. -/
def Validation.Context.newYear : Validation.Context where
  today := ⟨2024, 1, 1, by decide, by decide, by decide, by decide, by decide, by decide⟩
  client := ⟨.default, false⟩
  names := .none

structure Level where
  fields : List Field
  answers : List Answer

namespace Level
open Validation

def below (l : Level) (a : Attributes) (children : List Field) : Level :=
  ⟨children, (Answer.group? (locate (.group a children) l.answers [])).getD []⟩

/-- The levels that chains of groups lead to, a level itself among them. -/
inductive Reaches : Level → Level → Prop
  | here (l : Level) : Reaches l l
  | down {l m : Level} {a : Attributes} {children : List Field}
      (hg : Field.group a children ∈ l.fields) (h : Reaches (l.below a children) m) : Reaches l m

theorem Reaches.layer {l m : Level} (h : l.Reaches m) : Field.Layer l.fields m.fields := by
  induction h with
  | here l => exact .top l.fields
  | down hg _ ih => exact .inside hg ih

theorem Reaches.slugsOf_subset {l m : Level} (h : l.Reaches m) :
    Field.slugsOf m.fields ⊆ Field.slugsOf l.fields := by
  intro s hs
  induction h with
  | here => exact hs
  | down hg _ ih => exact Field.slugsOf_children_subset hg (ih hs)

/-- Chains of groups lead to every list of siblings in the tree. -/
theorem exists_reaches_of_layer {l : Level} {siblings : List Field}
    (h : Field.Layer l.fields siblings) : ∃ m, l.Reaches m ∧ m.fields = siblings := by
  generalize hfields : l.fields = fields at h
  induction h generalizing l with
  | top => exact ⟨l, .here l, hfields⟩
  | @inside fields siblings children a hg _ ih =>
    subst hfields
    obtain ⟨m, hm, hsiblings⟩ := ih (l := l.below a children) rfl
    exact ⟨m, .down hg hm, hsiblings⟩

/-- What holds at every level reached holds at the first one and at those reached from below. -/
theorem forall_reaches_iff {l : Level} {p : Level → Prop} :
    (∀ m, l.Reaches m → p m) ↔ p l ∧ ∀ a children, Field.group a children ∈ l.fields →
      ∀ m, (l.below a children).Reaches m → p m := by
  constructor
  · intro h
    exact ⟨h l (.here l), fun a children hg m hm => h m (.down hg hm)⟩
  · rintro ⟨hl, hbelow⟩ m hm
    cases hm with
    | here => exact hl
    | down hg hm => exact hbelow _ _ hg m hm

structure HasTexts (l : Level) : Prop where
  declared : ∀ s ∈ Field.slugsOf l.fields, s.IsText
  submitted : ∀ s ∈ Answer.slugs l.answers, s.IsText

theorem slugs_below_subset (l : Level) (a : Attributes) (children : List Field) :
    Answer.slugs (l.below a children).answers ⊆ Answer.slugs l.answers := by
  unfold below
  cases hg : Answer.group? (locate (.group a children) l.answers []) with
  | none => simp [Answer.slugs]
  | some inner =>
    unfold locate at hg
    rw [if_neg (by simp [Field.isFile])] at hg
    cases hfind : l.answers.find? fun b => b.slug.equal (Field.group a children).slug with
    | none => simp [hfind, Answer.group?] at hg
    | some b =>
      rw [hfind] at hg
      exact Answer.slugs_subset (List.mem_of_find?_eq_some hfind) hg

theorem HasTexts.below {l : Level} (h : l.HasTexts) {a : Attributes} {children : List Field}
    (hg : .group a children ∈ l.fields) : (l.below a children).HasTexts where
  declared := fun s hs => h.declared s (Field.slugsOf_children_subset hg hs)
  submitted := fun s hs => h.submitted s (l.slugs_below_subset a children hs)

variable (c : Context) (uploads : List Upload)

def value (l : Level) (f : Field) : Value := locate f l.answers uploads

def rules (l : Level) (f : Field) : RuleBag := effectiveRules f (l.value uploads f)

def ownCheck (l : Level) (f : Field) : Run (List Failure) :=
  valueFailures c f.slug (l.value uploads f) (l.rules uploads f) f.isGroup

/-- The failures of a level: slugs submitted that it does not declare, those of `names` as well,
and then the failures of its fields. -/
def report (names : List Value) (l : Level) (failures : List Failure) : List Failure :=
  if l.fields.isEmpty then [noFields]
  else ((Answer.slugs l.answers ++ names).filter
    fun s => !(Field.slugsOf l.fields).any s.equal).map unexpected ++ failures

/-- The fields of a level are visited in turn. A group has its children visited and reported before
its own check; a fault of a check counts as one failure. -/
inductive Visit : Level → List Field → Captcha.Exchange → List Failure → Captcha.Exchange → Prop
  | done (l : Level) (e : Captcha.Exchange) : Visit l [] e [] e
  | leaf {l : Level} {f : Field} {fs : List Field} {e e₁ e₂ : Captcha.Exchange}
      {own rest : List Failure} (hf : f.isGroup = false)
      (hown : ((l.ownCheck c uploads f).orElse fun _ => [internalFailure f.slug]).outcome e =
        (.ok own, e₁))
      (hrest : Visit l fs e₁ rest e₂) : Visit l (f :: fs) e (own ++ rest) e₂
  | group {l : Level} {a : Attributes} {children fs : List Field}
      {e e₁ e₂ e₃ : Captcha.Exchange} {inner own rest : List Failure}
      (hinner : Visit (l.below a children) children e inner e₁)
      (hown : ((l.ownCheck c uploads (.group a children)).orElse
        fun _ => [internalFailure a.slug]).outcome e₁ = (.ok own, e₂))
      (hrest : Visit l fs e₂ rest e₃) :
      Visit l (.group a children :: fs) e
        (underGroup a.slug ((l.below a children).report [] inner) ++ own ++ rest) e₃

def SameUploads (slugs : List Value) (own uploads : List Upload) : Prop :=
  ∀ s ∈ slugs, own.find? (fun u => u.fieldName.equal s) = uploads.find? fun u => u.fieldName.equal s

variable {c uploads}

theorem Visit.eq_nil_of_nil {l : Level} {e e' : Captcha.Exchange} {failures : List Failure}
    (hv : Visit c uploads l [] e failures e') : failures = [] := by
  cases hv
  rfl

theorem Visit.eq_nil_of_empty {l : Level} {e e' : Captcha.Exchange} {failures : List Failure}
    (hv : Visit c uploads l l.fields e failures e') (h : l.fields = []) : failures = [] := by
  rw [h] at hv
  exact hv.eq_nil_of_nil

theorem SameUploads.locate_eq {slugs : List Value} {own : List Upload} {f : Field}
    (h : SameUploads slugs own uploads) (hf : f.slug ∈ slugs) (answers : List Answer) :
    locate f answers own = locate f answers uploads := by
  unfold locate
  rw [h _ hf]

theorem find?_filter_declared {declared : List Value} {s : Value} (hs : s ∈ declared)
    (own : List Upload) :
    (own.filter fun u => declared.any u.fieldName.equal).find? (fun u => u.fieldName.equal s) =
      own.find? fun u => u.fieldName.equal s := by
  rw [List.find?_filter]
  -- what has the slug is let through by the filter
  congr 1
  funext u
  by_cases hu : u.fieldName.equal s = true
  · have hany : declared.any u.fieldName.equal = true := List.any_eq_true.2 ⟨_, hs, hu⟩
    simp [hu, hany]
  · simp [hu]

theorem SameUploads.filter {slugs declared : List Value} {own : List Upload}
    (h : SameUploads slugs own uploads) (hsub : declared ⊆ slugs) :
    SameUploads declared (own.filter fun u => declared.any u.fieldName.equal) uploads := by
  intro s hs
  rw [find?_filter_declared hs, h _ (hsub hs)]

theorem report_of_declared {l : Level} {names : List Value} (failures : List Failure)
    (h : ∀ s ∈ names, (Field.slugsOf l.fields).any s.equal = true) :
    l.report names failures = l.report [] failures := by
  have hnil : names.filter (fun s => !(Field.slugsOf l.fields).any s.equal) = [] := by
    rw [List.filter_eq_nil_iff]
    intro s hs
    simp only [h s hs, Bool.not_true, Bool.false_eq_true, not_false_eq_true]
  unfold report
  rw [List.filter_append, hnil, List.append_nil, List.append_nil]

theorem meets_report_iff {l : Level} {names : List Value} {failures : List Failure}
    {p : Failure → Prop} (hnone : ¬ p noFields) (hunexpected : ∀ s, ¬ p (unexpected s))
    (h : l.fields = [] → failures = []) :
    Meets p (l.report names failures) ↔ Meets p failures := by
  unfold report
  split
  · rename_i hempty
    rw [h (List.isEmpty_iff.1 hempty)]
    simp [Meets, hnone]
  · rw [meets_append_iff, or_iff_right]
    rintro ⟨x, hx, hp⟩
    obtain ⟨s, _, rfl⟩ := List.mem_map.1 hx
    exact hunexpected s hp

theorem slugFailures_eq {fields : List Field} {answers : List Answer} {own : List Upload}
    (hf : ∀ s ∈ Field.slugsOf fields, s.IsKey) (ha : ∀ s ∈ Answer.slugs answers, s.IsKey)
    (hu : ∀ u ∈ own, u.fieldName.IsKey) :
    slugFailures fields answers own =
      .ok (((Answer.slugs answers ++ own.map (·.fieldName)).filter
        fun s => !(Field.slugsOf fields).any s.equal).map unexpected) := by
  have hsubmitted : ∀ s ∈ Answer.slugs answers ++ own.map (·.fieldName), s.IsKey := by
    intro s hs
    rcases List.mem_append.1 hs with hs | hs
    · exact ha s hs
    · obtain ⟨u, hmem, rfl⟩ := List.mem_map.1 hs
      exact hu u hmem
  unfold slugFailures
  rw [asKeys_eq hf]
  exact unexpectedFailures_eq hsubmitted

theorem leaf_visit {l : Level} {own : List Upload} {f : Field} (hf : f.isGroup = false)
    (hsame : SameUploads f.slugs own uploads) (e : Captcha.Exchange)
    (heq : fieldFailures c l.answers own f = guardedFailures c f.slug (locate f l.answers own)
      (effectiveRules f (locate f l.answers own)) false) :
    ∃ here e', (fieldFailures c l.answers own f).outcome e = (.ok here, e') ∧
      ∀ fs rest e'', Visit c uploads l fs e' rest e'' →
        Visit c uploads l (f :: fs) e (here ++ rest) e'' := by
  rw [heq, hsame.locate_eq (Field.slug_mem_slugs f)]
  have hcheck : guardedFailures c f.slug (locate f l.answers uploads)
      (effectiveRules f (locate f l.answers uploads)) false =
      (l.ownCheck c uploads f).orElse fun _ => [internalFailure f.slug] := by
    unfold ownCheck rules value
    rw [hf]
    rfl
  rw [hcheck]
  obtain ⟨here, e', h⟩ := Run.exists_outcome_orElse (l.ownCheck c uploads f)
    (fun _ => [internalFailure f.slug]) e
  exact ⟨here, e', h, fun fs rest e'' hrest => .leaf hf h hrest⟩

mutual

theorem fieldFailures_visit (l : Level) (own : List Upload) (f : Field)
    (ha : ∀ s ∈ Answer.slugs l.answers, s.IsKey) (hf : ∀ s ∈ f.slugs, s.IsKey)
    (hu : ∀ u ∈ own, u.fieldName.IsKey) (hsame : SameUploads f.slugs own uploads)
    (e : Captcha.Exchange) :
    ∃ here e', (fieldFailures c l.answers own f).outcome e = (.ok here, e') ∧
      ∀ fs rest e'', Visit c uploads l fs e' rest e'' →
        Visit c uploads l (f :: fs) e (here ++ rest) e'' := by
  match f with
  | .group a children =>
    -- a group is not stopped by a fault below it: the visit of its children has a result
    have hc := fun s hs => hf s (List.mem_cons_of_mem _ hs)
    have hu' : ∀ u ∈ own.filter (fun u => (Field.slugsOf children).any u.fieldName.equal),
        u.fieldName.IsKey := fun u hmem => hu u (List.mem_filter.1 hmem).1
    have hbelow : ∀ s ∈ Answer.slugs (l.below a children).answers, s.IsKey :=
      fun s hs => ha s (l.slugs_below_subset a children hs)
    obtain ⟨inner, e₁, hinner, hvisit⟩ := levelFailures_visit (l.below a children).answers
      (own.filter fun u => (Field.slugsOf children).any u.fieldName.equal) children hbelow hc hu'
      (hsame.filter fun _ hs => List.mem_cons_of_mem _ hs) e
    obtain ⟨here, e₂, hown⟩ := Run.exists_outcome_orElse
      (l.ownCheck c uploads (.group a children)) (fun _ => [internalFailure a.slug]) e₁
    refine ⟨underGroup a.slug ((l.below a children).report [] inner) ++ here, e₂, ?_, ?_⟩
    -- the uploads passed on are all for the children, so none of them is unexpected there
    · rw [report_of_declared] at hinner
      · unfold fieldFailures
        rw [asKeys_eq hc, Run.outcome_bind_ok (Run.outcome_ofExcept _ _), uploadsFor_eq hu,
          Run.outcome_bind_ok (Run.outcome_ofExcept _ _)]
        have hguarded := Run.outcome_orElse (levelFailures c (l.below a children).answers
          (own.filter fun u => (Field.slugsOf children).any u.fieldName.equal) children)
          (fun _ => [groupFault a.slug]) e
        rw [hinner] at hguarded
        exact (Run.outcome_bind_ok hguarded).trans (Run.outcome_bind_ok hown)
      · intro s hs
        obtain ⟨u, hmem, rfl⟩ := List.mem_map.1 hs
        exact (List.mem_filter.1 hmem).2
    · intro fs rest e'' hrest
      exact .group hvisit hown hrest
  | .leaf t a => exact leaf_visit rfl hsame e rfl
  | .unknown t a => exact leaf_visit rfl hsame e rfl
  | .select a choices => exact leaf_visit rfl hsame e rfl
termination_by structural f

theorem levelFailures_visit (answers : List Answer) (own : List Upload) (fields : List Field)
    (ha : ∀ s ∈ Answer.slugs answers, s.IsKey) (hf : ∀ s ∈ Field.slugsOf fields, s.IsKey)
    (hu : ∀ u ∈ own, u.fieldName.IsKey) (hsame : SameUploads (Field.slugsOf fields) own uploads)
    (e : Captcha.Exchange) :
    ∃ failures e', (levelFailures c answers own fields).outcome e =
        (.ok (report (own.map (·.fieldName)) ⟨fields, answers⟩ failures), e') ∧
      Visit c uploads ⟨fields, answers⟩ fields e failures e' := by
  match fields with
  | [] => exact ⟨[], e, rfl, .done _ e⟩
  | f :: fs =>
    have hff := fun s hs => hf s (List.mem_append_left _ hs)
    have hfs := fun s hs => hf s (List.mem_append_right _ hs)
    obtain ⟨here, e₁, hhere, hvisit⟩ := fieldFailures_visit ⟨f :: fs, answers⟩ own f ha hff hu
      (fun s hs => hsame s (List.mem_append_left _ hs)) e
    obtain ⟨rest, e₂, hrest, hvisits⟩ := restFailures_visit ⟨f :: fs, answers⟩ own fs ha hfs hu
      (fun s hs => hsame s (List.mem_append_right _ hs)) e₁
    refine ⟨here ++ rest, e₂, ?_, hvisit fs rest e₂ hvisits⟩
    unfold levelFailures
    rw [slugFailures_eq hf ha hu]
    rw [Run.outcome_bind_ok (Run.outcome_ofExcept _ _), Run.outcome_bind_ok hhere,
      Run.outcome_bind_ok hrest]
    simp only [Run.outcome_pure, report, List.isEmpty_cons, Bool.false_eq_true, if_false,
      List.append_assoc]
termination_by structural fields

theorem restFailures_visit (l : Level) (own : List Upload) (fs : List Field)
    (ha : ∀ s ∈ Answer.slugs l.answers, s.IsKey) (hf : ∀ s ∈ Field.slugsOf fs, s.IsKey)
    (hu : ∀ u ∈ own, u.fieldName.IsKey) (hsame : SameUploads (Field.slugsOf fs) own uploads)
    (e : Captcha.Exchange) :
    ∃ rest e', (restFailures c l.answers own fs).outcome e = (.ok rest, e') ∧
      Visit c uploads l fs e rest e' := by
  match fs with
  | [] => exact ⟨[], e, rfl, .done l e⟩
  | f :: fs =>
    have hff := fun s hs => hf s (List.mem_append_left _ hs)
    have hfs := fun s hs => hf s (List.mem_append_right _ hs)
    obtain ⟨here, e₁, hhere, hvisit⟩ := fieldFailures_visit l own f ha hff hu
      (fun s hs => hsame s (List.mem_append_left _ hs)) e
    obtain ⟨rest, e₂, hrest, hvisits⟩ := restFailures_visit l own fs ha hfs hu
      (fun s hs => hsame s (List.mem_append_right _ hs)) e₁
    refine ⟨here ++ rest, e₂, ?_, hvisit fs rest e₂ hvisits⟩
    unfold restFailures
    rw [Run.outcome_bind_ok hhere, Run.outcome_bind_ok hrest]
    rfl
termination_by structural fs

end

theorem check_outcome (answers : List Answer) (fields : List Field) (own : List Upload)
    (e : Captcha.Exchange) :
    (check c answers fields own).outcome e =
      match (levelFailures c answers own fields).outcome e with
      | (.ok failures, e') => (.ok ⟨failures⟩, e')
      | (.error f, e') => (.ok ⟨[formFault f]⟩, e') := by
  unfold check
  rw [Run.outcome_bind, Run.outcome_orElse]
  rcases (levelFailures c answers own fields).outcome e with ⟨f | failures, e'⟩ <;> rfl

/-- The check of a form visits its fields, and reports what it meets there. -/
theorem check_visit_of_keys {l : Level} (hf : ∀ s ∈ Field.slugsOf l.fields, s.IsKey)
    (ha : ∀ s ∈ Answer.slugs l.answers, s.IsKey) (hu : ∀ u ∈ uploads, u.fieldName.IsKey)
    (e : Captcha.Exchange) :
    ∃ failures e', (check c l.answers l.fields uploads).outcome e =
        (.ok ⟨l.report (uploads.map (·.fieldName)) failures⟩, e') ∧
      Visit c uploads l l.fields e failures e' := by
  obtain ⟨failures, e', hrun, hvisit⟩ := levelFailures_visit (c := c) l.answers uploads l.fields
    ha hf hu (fun _ _ => rfl) e
  exact ⟨failures, e', by rw [check_outcome, hrun], hvisit⟩

theorem check_visit {l : Level} (hl : l.HasTexts) (hu : ∀ u ∈ uploads, u.fieldName.IsText)
    (e : Captcha.Exchange) :
    ∃ failures e', (check c l.answers l.fields uploads).outcome e =
        (.ok ⟨l.report (uploads.map (·.fieldName)) failures⟩, e') ∧
      Visit c uploads l l.fields e failures e' :=
  check_visit_of_keys (fun s hs => (hl.declared s hs).isKey) (fun s hs => (hl.submitted s hs).isKey)
    (fun u hmem => (hu u hmem).isKey) e

end Level

end Intake
