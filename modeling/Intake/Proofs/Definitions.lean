import Intake.Definition.Fields
import Intake.Proofs.Levels
import Intake.Proofs.WellFormed

/-! Which definitions are accepted. Siblings at every depth are told apart by their slugs, each
field makes sense on its own, and only fields at the top may be public; the check of a definition
reports nothing for exactly these. -/

namespace Intake

namespace Field

/-- A field makes sense on its own, whatever its siblings and the fields below it are. -/
structure WellFormed (names : Pattern.Names) (f : Field) : Prop where
  slug : ∃ s, f.slug = .text s ∧ s ≠ "" ∧ ∀ c ∈ s.toList, c.isAlphanum = true ∨ c = '_' ∨ c = '-'
  name : f.attributes.displayName.IsFilled
  type : ∃ t, f.type? = some t
  children : ∀ a children, f = .group a children → children ≠ []
  choices : ∀ a choices, f = .select a choices → choices ≠ [] ∧ ∀ c ∈ choices, c.value.IsFilled
  captcha : f.isCaptcha = true → ∃ b, f.rules = some b ∧ RuleKind.captcha.key ∈ b.kinds
  rules : ∀ b, f.rules = some b → b.WellFormed names

/-- Fields that can stand side by side, at the top of a form or inside a group. -/
structure Siblings (names : Pattern.Names) (root : Bool) (fs : List Field) : Prop where
  distinct : (fs.map Field.slug).Nodup
  wellFormed : ∀ f ∈ fs, f.WellFormed names
  hidden : root = false → ∀ f ∈ fs, f.attributes.isPublic = false

def Below (names : Pattern.Names) (f : Field) : Prop :=
  ∀ a children, f = .group a children → ∀ siblings, Layer children siblings →
    Siblings names false siblings

theorem forall_layer_iff {names : Pattern.Names} {fields : List Field} :
    (∀ siblings, Layer fields siblings → Siblings names false siblings) ↔
      Siblings names false fields ∧ ∀ f ∈ fields, f.Below names := by
  constructor
  · intro h
    refine ⟨h fields (.top fields), ?_⟩
    rintro f hf a children rfl siblings hs
    exact h siblings (.inside hf hs)
  · rintro ⟨htop, hbelow⟩ siblings hs
    cases hs with
    | top => exact htop
    | inside hg hs => exact hbelow _ hg _ _ rfl siblings hs

end Field

namespace Definition
open Intake.Field

variable {names : Pattern.Names}

theorem isSlug_iff {s : String} :
    isSlug s = true ↔ s ≠ "" ∧ ∀ c ∈ s.toList, c.isAlphanum = true ∨ c = '_' ∨ c = '-' := by
  unfold isSlug isSlugChar
  simp only [Bool.and_eq_true, bne_iff_ne, ne_eq, List.all_eq_true, Bool.or_eq_true, beq_iff_eq,
    or_assoc]

theorem slugFailures_cases {seen seen' : List String} {slug : Value} {xs : List Failure}
    (h : slugFailures seen slug = .ok (xs, seen')) :
    (∃ s, slug = .text s ∧ isSlug s = true ∧ s ∉ seen ∧ xs = [] ∧ seen' = s :: seen) ∨
    xs ≠ [] ∧ ¬ ∃ s, slug = .text s ∧ isSlug s = true ∧ s ∉ seen := by
  have hrefused : (do return ([← invalidSlug slug], seen)) = Except.ok (xs, seen') → xs ≠ [] := by
    intro h
    obtain ⟨x, _, h⟩ := bind_eq_ok.1 h
    cases h
    exact List.cons_ne_nil _ _
  cases slug with
  | text s =>
    by_cases hs : isSlug s = true
    · by_cases hseen : s ∈ seen
      · right
        simp only [slugFailures, hs, Bool.not_true, Bool.false_eq_true, if_false,
          List.contains_iff_mem, hseen, if_true] at h
        cases h
        simp [hseen]
      · left
        simp only [slugFailures, hs, Bool.not_true, Bool.false_eq_true, if_false,
          List.contains_iff_mem, hseen] at h
        cases h
        exact ⟨s, rfl, hs, hseen, rfl, rfl⟩
    · right
      simp only [slugFailures, hs, Bool.not_false, if_true] at h
      exact ⟨hrefused h, by simp [hs]⟩
  | _ => exact .inr ⟨hrefused h, by simp⟩

theorem nameFailures_eq_nil_iff {a : Attributes} :
    nameFailures a = [] ↔ a.displayName.IsFilled := by
  rw [← isFilledText_iff]
  unfold nameFailures
  split <;> simp_all

theorem commonFailures_eq_nil_iff {root : Bool} {a : Attributes} {xs : List Failure}
    (h : commonFailures names root a = .ok xs) :
    xs = [] ↔ (∀ b, a.rules = some b → b.WellFormed names) ∧
      (root = false → a.isPublic = false) := by
  unfold commonFailures at h
  cases hrules : a.rules with
  | none =>
    rw [hrules] at h
    cases h
    cases a.isPublic <;> cases root <;> simp
  | some b =>
    rw [hrules] at h
    obtain ⟨rules, hbag, h⟩ := bind_eq_ok.1 h
    cases h
    rw [List.append_eq_nil_iff, bagFailures_eq_nil_iff hbag]
    cases a.isPublic <;> cases root <;> simp

def Parts (f : Field) : Prop :=
  (∃ t, f.type? = some t) ∧ (∀ a children, f = .group a children → children ≠ []) ∧
    (∀ a choices, f = .select a choices → choices ≠ [] ∧ ∀ c ∈ choices, c.value.IsFilled) ∧
      (f.isCaptcha = true → ∃ b, f.rules = some b ∧ RuleKind.captcha.key ∈ b.kinds)

theorem typeFailures_eq_nil_iff {v : Value} {a : Attributes} {xs : List Failure}
    (h : typeFailures (.unknown v a) = .ok xs) : xs = [] ↔ Parts (.unknown v a) := by
  obtain ⟨s, _, h⟩ := bind_eq_ok.1 h
  cases h
  simp [Parts, Field.type?]

theorem leafFailures_eq_nil_iff {t : LeafType} {a : Attributes} :
    variantFailures (.leaf t a) = [] ↔ Parts (.leaf t a) := by
  cases t with
  | captcha =>
    cases hrules : a.rules with
    | none => simp [variantFailures, Parts, Field.type?, Field.isCaptcha, Field.rules,
        Field.attributes, hrules]
    | some b => simp [variantFailures, Parts, Field.type?, Field.isCaptcha, Field.rules,
        Field.attributes, hrules, RuleBag.contains_key_iff]
  | _ => simp [variantFailures, Parts, Field.type?, Field.isCaptcha]

theorem choiceFailures_eq_nil_iff {a : Attributes} {choices : List Choice} :
    variantFailures (.select a choices) = [] ↔ Parts (.select a choices) := by
  unfold variantFailures choiceFailures
  rw [List.append_eq_nil_iff, List.map_eq_nil_iff, List.filter_eq_nil_iff]
  simp [Parts, Field.type?, Field.isCaptcha]

@[simp] theorem parts_group_iff {a : Attributes} {children : List Field} :
    Parts (.group a children) ↔ children ≠ [] := by
  simp [Parts, Field.type?, Field.isCaptcha]

def Accepts (names : Pattern.Names) (root : Bool) (seen : List String) (f : Field) : Prop :=
  (∃ s, f.slug = .text s ∧ isSlug s = true ∧ s ∉ seen) ∧ f.attributes.displayName.IsFilled ∧
    (Parts f ∧ f.Below names) ∧ (∀ b, f.rules = some b → b.WellFormed names) ∧
      (root = false → f.attributes.isPublic = false)

theorem accepts_iff {root : Bool} {seen : List String} {f : Field} :
    Accepts names root seen f ↔
      f.WellFormed names ∧ (root = false → f.attributes.isPublic = false) ∧
      f.Below names ∧ ∀ s, f.slug = .text s → s ∉ seen := by
  unfold Accepts Parts
  constructor
  · rintro ⟨⟨s, hs, hslug, hseen⟩, hname, ⟨⟨ht, hch, hsel, hcap⟩, hbelow⟩, hrules, hpublic⟩
    refine ⟨⟨⟨s, hs, isSlug_iff.1 hslug⟩, hname, ht, hch, hsel, hcap, hrules⟩, hpublic, hbelow, ?_⟩
    intro t heq
    obtain rfl := Value.text.inj (hs.symm.trans heq)
    exact hseen
  · rintro ⟨⟨⟨s, hs, hslug⟩, hname, ht, hch, hsel, hcap, hrules⟩, hpublic, hbelow, hseen⟩
    exact ⟨⟨s, hs, isSlug_iff.2 hslug, hseen s hs⟩, hname, ⟨⟨ht, hch, hsel, hcap⟩, hbelow⟩, hrules,
      hpublic⟩

theorem failures_eq_nil_iff {root : Bool} {seen seen' : List String} {f : Field}
    {slug parts common : List Failure} (hslug : slugFailures seen f.slug = .ok (slug, seen'))
    (hparts : parts = [] ↔ Parts f ∧ f.Below names)
    (hcommon : commonFailures names root f.attributes = .ok common) :
    (slug ++ nameFailures f.attributes ++ parts ++ common = [] ↔ Accepts names root seen f) ∧
    (Accepts names root seen f → ∃ s, f.slug = .text s ∧ seen' = s :: seen) := by
  simp only [List.append_eq_nil_iff, nameFailures_eq_nil_iff, hparts,
    commonFailures_eq_nil_iff hcommon, and_assoc]
  rcases slugFailures_cases hslug with ⟨s, hs, hvalid, hseen, rfl, rfl⟩ | ⟨hne, hno⟩
  · refine ⟨?_, fun _ => ⟨s, hs, rfl⟩⟩
    have hex : ∃ s, f.slug = .text s ∧ isSlug s = true ∧ s ∉ seen := ⟨s, hs, hvalid, hseen⟩
    simp only [Accepts, hex, true_and, and_assoc]
    rfl
  · refine ⟨?_, fun h => absurd h.1 hno⟩
    simp only [Accepts, hno, hne, false_and]

/-- Siblings that are accepted when some slugs have been seen. -/
def AcceptsAll (names : Pattern.Names) (root : Bool) (seen : List String) (fs : List Field) :
    Prop :=
  Siblings names root fs ∧ (∀ f ∈ fs, f.Below names) ∧ ∀ f ∈ fs, ∀ s, f.slug = .text s → s ∉ seen

theorem acceptsAll_cons_iff {root : Bool} {seen : List String} {f : Field} {fs : List Field}
    {s : String} (hs : f.slug = .text s) :
    AcceptsAll names root seen (f :: fs) ↔
      Accepts names root seen f ∧ AcceptsAll names root (s :: seen) fs := by
  rw [accepts_iff]
  constructor
  · rintro ⟨⟨hdistinct, hfields, hhidden⟩, hbelow, hseen⟩
    rw [List.map_cons, List.nodup_cons] at hdistinct
    rw [List.forall_mem_cons] at hfields hbelow hseen
    refine ⟨⟨hfields.1, fun h => hhidden h f List.mem_cons_self, hbelow.1, hseen.1⟩,
      ⟨hdistinct.2, hfields.2, fun h g hg => hhidden h g (List.mem_cons_of_mem _ hg)⟩,
      hbelow.2, fun g hg t ht hmem => ?_⟩
    rcases List.mem_cons.1 hmem with rfl | hmem
    · exact hdistinct.1 (List.mem_map.2 ⟨g, hg, ht.trans hs.symm⟩)
    · exact hseen.2 g hg t ht hmem
  · rintro ⟨⟨hwf, hhidden, hbelow, hseen⟩, ⟨hdistinct, hfields, hhiddens⟩, hbelows, hseens⟩
    refine ⟨⟨?_, ?_, fun h => ?_⟩, ?_, ?_⟩
    · refine List.nodup_cons.2 ⟨fun hmem => ?_, hdistinct⟩
      obtain ⟨g, hg, heq⟩ := List.mem_map.1 hmem
      exact hseens g hg s (heq.trans hs) List.mem_cons_self
    · exact List.forall_mem_cons.2 ⟨hwf, hfields⟩
    · exact List.forall_mem_cons.2 ⟨hhidden h, hhiddens h⟩
    · exact List.forall_mem_cons.2 ⟨hbelow, hbelows⟩
    · refine List.forall_mem_cons.2 ⟨hseen, fun g hg t ht hmem => ?_⟩
      exact hseens g hg t ht (List.mem_cons_of_mem _ hmem)

theorem below_of_isGroup {f : Field} (h : f.isGroup = false) : f.Below names := by
  rintro a children rfl
  cases h

theorem below_group_iff {a : Attributes} {children : List Field} :
    (Field.group a children).Below names ↔ AcceptsAll names false [] children := by
  have hbelow : (Field.group a children).Below names ↔
      ∀ siblings, Layer children siblings → Siblings names false siblings := forall_group_eq_iff
  rw [hbelow, forall_layer_iff]
  simp [AcceptsAll]

mutual

theorem fieldFailures_eq_nil_iff {root : Bool} {seen seen' : List String} {f : Field}
    {xs : List Failure} (h : fieldFailures names root seen f = .ok (xs, seen')) :
    (xs = [] ↔ Accepts names root seen f) ∧
      (Accepts names root seen f → ∃ s, f.slug = .text s ∧ seen' = s :: seen) := by
  match f with
  | .group a children =>
    unfold fieldFailures at h
    obtain ⟨⟨slug, seen₁⟩, hslug, h⟩ := bind_eq_ok.1 h
    cases children with
    -- a group without children is reported for that, and nothing below it is checked
    | nil =>
      obtain ⟨below, hbelow, h⟩ := bind_eq_ok.1 h
      obtain ⟨common, hcommon, h⟩ := bind_eq_ok.1 h
      cases hbelow
      cases h
      refine failures_eq_nil_iff (f := .group a []) hslug ?_ hcommon
      simp
    | cons f fs =>
      obtain ⟨below, hbelow, h⟩ := bind_eq_ok.1 h
      obtain ⟨common, hcommon, h⟩ := bind_eq_ok.1 h
      cases h
      refine failures_eq_nil_iff (f := .group a (f :: fs)) hslug ?_ hcommon
      rw [parts_group_iff, below_group_iff, siblingFailures_eq_nil_iff hbelow]
      simp
  | .leaf t a =>
    unfold fieldFailures at h
    obtain ⟨⟨slug, seen₁⟩, hslug, h⟩ := bind_eq_ok.1 h
    obtain ⟨common, hcommon, h⟩ := bind_eq_ok.1 h
    cases h
    refine failures_eq_nil_iff (f := .leaf t a) hslug ?_ hcommon
    rw [leafFailures_eq_nil_iff, and_iff_left (below_of_isGroup rfl)]
  | .unknown v a =>
    unfold fieldFailures at h
    obtain ⟨⟨slug, seen₁⟩, hslug, h⟩ := bind_eq_ok.1 h
    obtain ⟨type, htype, h⟩ := bind_eq_ok.1 h
    obtain ⟨common, hcommon, h⟩ := bind_eq_ok.1 h
    cases h
    refine failures_eq_nil_iff (f := .unknown v a) hslug ?_ hcommon
    rw [typeFailures_eq_nil_iff htype, and_iff_left (below_of_isGroup rfl)]
  | .select a choices =>
    unfold fieldFailures at h
    obtain ⟨⟨slug, seen₁⟩, hslug, h⟩ := bind_eq_ok.1 h
    obtain ⟨common, hcommon, h⟩ := bind_eq_ok.1 h
    cases h
    refine failures_eq_nil_iff (f := .select a choices) hslug ?_ hcommon
    rw [choiceFailures_eq_nil_iff, and_iff_left (below_of_isGroup rfl)]
termination_by structural f

theorem siblingFailures_eq_nil_iff {root : Bool} {seen : List String} {fs : List Field}
    {xs : List Failure} (h : siblingFailures names root seen fs = .ok xs) :
    xs = [] ↔ AcceptsAll names root seen fs := by
  match fs with
  | [] =>
    cases h
    simp [AcceptsAll, Siblings.mk]
  | f :: fs =>
    -- only an accepted field is sure to leave its slug among those seen
    unfold siblingFailures at h
    obtain ⟨⟨here, seen'⟩, hhere, h⟩ := bind_eq_ok.1 h
    obtain ⟨rest, hrest, h⟩ := bind_eq_ok.1 h
    cases h
    obtain ⟨hnil, hseen⟩ := fieldFailures_eq_nil_iff hhere
    have hrests := siblingFailures_eq_nil_iff hrest
    rw [List.append_eq_nil_iff, hnil, hrests]
    constructor
    · rintro ⟨hf, hfs⟩
      obtain ⟨s, hs, rfl⟩ := hseen hf
      exact (acceptsAll_cons_iff hs).2 ⟨hf, hfs⟩
    · intro hall
      obtain ⟨s, hs, _⟩ := (hall.1.wellFormed f List.mem_cons_self).slug
      obtain ⟨hf, hfs⟩ := (acceptsAll_cons_iff hs).1 hall
      obtain ⟨s', hs', rfl⟩ := hseen hf
      obtain rfl := Value.text.inj (hs.symm.trans hs')
      exact ⟨hf, hfs⟩
termination_by structural fs

end

theorem entryFailures_eq {root : Bool} {position : Nat} {seen : List String} {entries : List Entry}
    {fields : List Field} (h : entries.map Entry.read = fields.map .ok) :
    entryFailures names root position seen entries = siblingFailures names root seen fields := by
  induction entries generalizing position seen fields with
  | nil =>
    obtain rfl := List.map_eq_nil_iff.1 h.symm
    rfl
  | cons e entries ih =>
    cases fields with
    | nil => cases h
    | cons f fs =>
      obtain ⟨hread, hrest⟩ := List.cons.inj h
      unfold entryFailures siblingFailures
      rw [hread]
      simp only [ih hrest]

theorem map_read_field (fields : List Field) :
    (fields.map Entry.field).map Entry.read = fields.map .ok := by
  rw [List.map_map]
  rfl

theorem checkFields_eq (root : Bool) (fields : List Field) : checkFields names root fields =
    if fields.isEmpty then .ok noFields else do
      return ⟨← siblingFailures names root [] fields⟩ := by
  unfold checkFields checkEntries
  rw [entryFailures_eq (map_read_field fields), List.isEmpty_map]
  rfl

theorem exists_fields_of_nil {root : Bool} {position : Nat} {seen : List String}
    {entries : List Entry} (h : entryFailures names root position seen entries = .ok []) :
    ∃ fields : List Field, entries.map Entry.read = fields.map .ok := by
  induction entries generalizing position seen with
  | nil => exact ⟨[], rfl⟩
  | cons e entries ih =>
    unfold entryFailures at h
    split at h
    · rename_i f hread
      obtain ⟨⟨here, seen'⟩, _, h⟩ := bind_eq_ok.1 h
      obtain ⟨rest, hrest, h⟩ := bind_eq_ok.1 h
      obtain ⟨rfl, rfl⟩ := List.append_eq_nil_iff.1 (Except.ok.inj h)
      obtain ⟨fields, hfields⟩ := ih hrest
      exact ⟨f :: fields, by rw [List.map_cons, List.map_cons, hread, hfields]⟩
    · obtain ⟨rest, _, h⟩ := bind_eq_ok.1 h
      cases h
    · cases h

theorem checkEntries_of_read {root : Bool} {entries : List Entry} {fields : List Field}
    {report : Report} (hread : entries.map Entry.read = fields.map .ok)
    (h : checkEntries names root entries = .ok report) :
    report.isValid = true ↔ fields ≠ [] ∧ AcceptsAll names root [] fields := by
  cases fields with
  | nil =>
    obtain rfl := List.map_eq_nil_iff.1 hread
    cases h
    simp [Report.isValid, noFields]
  | cons f fs =>
    cases entries with
    | nil => cases hread
    | cons e es =>
      obtain ⟨failures, hfailures, h⟩ := bind_eq_ok.1 h
      cases h
      rw [entryFailures_eq hread] at hfailures
      rw [Report.isValid, List.isEmpty_iff, siblingFailures_eq_nil_iff hfailures]
      simp

theorem accepts_of_checkFields {root : Bool} {fields : List Field} {report : Report}
    (h : checkFields names root fields = .ok report) (hvalid : report.isValid = true) :
    AcceptsAll names root [] fields :=
  ((checkEntries_of_read (map_read_field fields) h).1 hvalid).2

theorem exists_accepted {root : Bool} {entries : List Entry} {report : Report}
    (h : checkEntries names root entries = .ok report) (hvalid : report.isValid = true) :
    ∃ fields : List Field,
      entries.map Entry.read = fields.map .ok ∧ AcceptsAll names root [] fields := by
  obtain ⟨fields, hread⟩ : ∃ fields : List Field, entries.map Entry.read = fields.map .ok := by
    cases entries with
    | nil => exact ⟨[], rfl⟩
    | cons e es =>
      obtain ⟨failures, hfailures, h⟩ := bind_eq_ok.1 h
      cases h
      obtain rfl := List.isEmpty_iff.1 hvalid
      exact exists_fields_of_nil hfailures
  exact ⟨fields, hread, ((checkEntries_of_read hread h).1 hvalid).2⟩

/-- Accepted fields can stand side by side at every depth. -/
theorem AcceptsAll.siblings {root : Bool} {fields siblings : List Field}
    (h : AcceptsAll names root [] fields) (hs : Layer fields siblings) :
    Siblings names root siblings ∨ Siblings names false siblings := by
  cases hs with
  | top => exact .inl h.1
  | inside hg hs => exact .inr (h.2.1 _ hg _ _ rfl siblings hs)

theorem AcceptsAll.wellFormed {root : Bool} {fields siblings : List Field}
    (h : AcceptsAll names root [] fields) (hs : Layer fields siblings) :
    ∀ f ∈ siblings, f.WellFormed names :=
  (h.siblings hs).elim (·.wellFormed) (·.wellFormed)

theorem AcceptsAll.distinct {root : Bool} {fields siblings : List Field}
    (h : AcceptsAll names root [] fields) (hs : Layer fields siblings) :
    (siblings.map Field.slug).Nodup :=
  (h.siblings hs).elim (·.distinct) (·.distinct)

theorem AcceptsAll.hasTexts {root : Bool} {fields : List Field}
    (h : AcceptsAll names root [] fields)
    {answers : List Answer} (ha : ∀ s ∈ Answer.slugs answers, s.IsText) :
    Level.HasTexts ⟨fields, answers⟩ := by
  refine ⟨fun s hs => ?_, ha⟩
  obtain ⟨siblings, g, hlayer, hg, rfl⟩ := exists_layer_of_mem_slugsOf hs
  obtain ⟨t, ht, _⟩ := (h.wellFormed hlayer g hg).slug
  exact ⟨t, ht⟩

/-- The check of a definition, where it has a report, accepts exactly the well-formed ones: entries
that all read as fields which at every depth can stand side by side. -/
theorem checkEntries_isValid_iff {root : Bool} {entries : List Entry} {report : Report}
    (h : checkEntries names root entries = .ok report) :
    report.isValid = true ↔ entries ≠ [] ∧
      ∃ fields : List Field, entries.map Entry.read = fields.map .ok ∧ Siblings names root fields ∧
        ∀ a children siblings, .group a children ∈ fields → Layer children siblings →
          Siblings names false siblings := by
  have hbelow : ∀ fields : List Field, (∀ f ∈ fields, f.Below names) ↔
      ∀ a children siblings, .group a children ∈ fields → Layer children siblings →
        Siblings names false siblings := by
    intro fields
    constructor
    · exact fun h a children siblings hg hs => h _ hg a children rfl siblings hs
    · rintro h f hf a children rfl siblings hs
      exact h a children siblings hf hs
  have hnonempty : ∀ fields : List Field, entries.map Entry.read = fields.map .ok →
      (fields ≠ [] ↔ entries ≠ []) := by
    intro fields hread
    rw [← List.length_pos_iff, ← List.length_pos_iff, ← List.length_map (f := Entry.read), hread,
      List.length_map]
  constructor
  -- an entry that cannot be read has a failure, so that in a valid report all have been read
  · intro hvalid
    obtain ⟨fields, hread⟩ : ∃ fields : List Field, entries.map Entry.read = fields.map .ok := by
      cases entries with
      | nil => exact ⟨[], rfl⟩
      | cons e es =>
        obtain ⟨failures, hfailures, h⟩ := bind_eq_ok.1 h
        cases h
        obtain rfl := List.isEmpty_iff.1 hvalid
        exact exists_fields_of_nil hfailures
    obtain ⟨hne, hsiblings, hfields, -⟩ := (checkEntries_of_read hread h).1 hvalid
    exact ⟨(hnonempty fields hread).1 hne, fields, hread, hsiblings, (hbelow fields).1 hfields⟩
  · rintro ⟨hne, fields, hread, hsiblings, hfields⟩
    refine (checkEntries_of_read hread h).2 ⟨(hnonempty fields hread).2 hne, hsiblings, ?_, ?_⟩
    · exact (hbelow fields).2 hfields
    · exact fun _ _ _ _ => List.not_mem_nil

def guestEntries : List Entry :=
  [.field (.group (.ofRules "guest" []) [.leaf .text
    (.ofRules "name" [(.string, .options ⟨.length (.int 1) (.text "20"), []⟩)])])]

/-- A group with a text of bounded length in it is accepted: it is read, and it is well-formed. -/
theorem checkEntries_isValid_iff_guest :
    ∃ report, checkEntries .none true guestEntries = .ok report ∧ report.isValid = true ∧
      guestEntries ≠ [] ∧
      ∃ fields : List Field, guestEntries.map Entry.read = fields.map .ok ∧
        Siblings .none true fields ∧
        ∀ a children siblings, .group a children ∈ fields → Layer children siblings →
          Siblings .none false siblings := by
  have hvalid : (checkEntries .none true guestEntries).toOption.map Report.isValid = some true := by
    decide +kernel
  obtain ⟨report, hreport, hvalid⟩ := exists_of_toOption hvalid
  exact ⟨report, hreport, hvalid, (checkEntries_isValid_iff hreport).1 hvalid⟩

/-- Bounds are rounded before they are compared: a least number that is greater than the greatest
one is accepted where both round to the same. -/
theorem checkFields_accepts_crossed :
    ((checkFields .none true [.leaf .text (.ofRules "amount" [(.number, .options
        ⟨.number (.int 9007199254740993) (.int 9007199254740992), []⟩)])]).toOption.map
          Report.isValid) = some true ∧ (9007199254740992 : Int) < 9007199254740993 := by
  decide +kernel

end Definition

end Intake
