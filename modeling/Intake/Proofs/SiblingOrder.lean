import Intake.Proofs.Codes
import Intake.Proofs.Definitions
import Mathlib.Algebra.GroupWithZero.Nat
import Mathlib.Data.List.Dedup
import Mathlib.Data.List.Forall2
import Mathlib.Data.List.Perm.Basic
import Mathlib.Logic.Relation

/-! The order of siblings. Which field is blamed for a slug that is declared twice depends on the
order of the fields, but how often the slug is reported does not: once for each field that has it
but one. All else that is reported of a field does not depend on its siblings. -/

namespace Intake

variable {names : Pattern.Names}

namespace Field

/-- The fields of one level are put in another order, at the top or inside a group. -/
inductive Reorders : List Field → List Field → Prop
  | level {fs gs : List Field} (h : fs.Perm gs) : Reorders fs gs
  | inside {children children' : List Field} (before after : List Field) (a : Attributes)
      (h : Reorders children children') :
      Reorders (before ++ .group a children :: after) (before ++ .group a children' :: after)

theorem Reorders.isEmpty_eq {fs gs : List Field} (h : Reorders fs gs) :
    gs.isEmpty = fs.isEmpty := by
  cases h with
  | level h =>
    rw [Bool.eq_iff_iff, List.isEmpty_iff_length_eq_zero, List.isEmpty_iff_length_eq_zero,
      h.length_eq]
  | inside before after a _ => cases before <;> rfl

def childLists : Field → List (List Field)
  | .group _ children => [children]
  | _ => []

end Field

namespace Definition
open Intake.Field

def validSlug? (slug : Value) : Option String := slug.text?.filter isSlug

def validSlugs (fs : List Field) : List String := fs.filterMap fun f => validSlug? f.slug

def duplicate (s : String) : Failure :=
  ⟨.text s, s!"Field \"{s}\" is declared more than once at the same level.", "DUPLICATE_SLUG"⟩

/-- The texts that have come up before, some of them earlier still. -/
def repeats (seen : List String) : List String → List String
  | [] => []
  | s :: ss => if s ∈ seen then s :: repeats seen ss else repeats (s :: seen) ss

theorem count_repeats (t : String) (seen ss : List String) :
    (repeats seen ss).count t = ss.count t - if t ∈ seen then 0 else 1 := by
  induction ss generalizing seen with
  | nil => simp [repeats]
  | cons s ss ih =>
    unfold repeats
    by_cases hs : s ∈ seen
    · rw [if_pos hs, List.count_cons, List.count_cons, ih]
      by_cases hst : s = t
      · subst hst
        simp [hs]
      · simp [hst]
    · rw [if_neg hs, List.count_cons, ih]
      by_cases hst : s = t
      · subst hst
        simp [hs]
      · simp [hst, Ne.symm hst]

theorem repeats_append_dedup (ss : List String) : (repeats [] ss ++ ss.dedup).Perm ss := by
  rw [List.perm_iff_count]
  intro t
  rw [List.count_append, count_repeats, List.count_dedup, if_neg List.not_mem_nil]
  by_cases ht : t ∈ ss
  · have hpos := List.count_pos_iff.2 ht
    rw [if_pos ht]
    omega
  · rw [if_neg ht, List.count_eq_zero_of_not_mem ht]

@[simp] theorem length_repeats (ss : List String) :
    (repeats [] ss).length = ss.length - ss.dedup.length := by
  have hlength := (repeats_append_dedup ss).length_eq
  rw [List.length_append] at hlength
  omega

theorem repeats_perm {ss ts : List String} (h : ss.Perm ts) (seen : List String) :
    (repeats seen ss).Perm (repeats seen ts) := by
  rw [List.perm_iff_count]
  intro t
  rw [count_repeats, count_repeats, h.count_eq]

def repetition (seen : List String) (slug : Value) : List Failure :=
  (repeats seen (validSlug? slug).toList).map duplicate

def seenWith (seen : List String) (slug : Value) : List String :=
  match validSlug? slug with
  | some s => if s ∈ seen then seen else s :: seen
  | none => seen

theorem repeats_validSlugs_cons (seen : List String) (f : Field) (fs : List Field) :
    (repeats seen (validSlugs (f :: fs))).map duplicate = repetition seen f.slug ++
      (repeats (seenWith seen f.slug) (validSlugs fs)).map duplicate := by
  unfold validSlugs repetition seenWith
  rw [List.filterMap_cons]
  cases validSlug? f.slug with
  | none => rfl
  | some s =>
    by_cases hs : s ∈ seen
    · simp [repeats, hs]
    · simp [repeats, hs]

def ownSlugFailures (slug : Value) : Except Fault (List Failure) :=
  match validSlug? slug with
  | some _ => .ok []
  | none => do return [← invalidSlug slug]

theorem slugFailures_eq (seen : List String) (slug : Value) : slugFailures seen slug = (do
    return (repetition seen slug ++ (← ownSlugFailures slug), seenWith seen slug)) := by
  unfold repetition seenWith ownSlugFailures
  cases slug with
  | text s =>
    by_cases hs : isSlug s = true
    · have hvalid : validSlug? (.text s) = some s := by simp [validSlug?, Value.text?, hs]
      rw [hvalid]
      by_cases hseen : s ∈ seen
      · simp [slugFailures, repeats, hs, hseen, duplicate]
      · simp [slugFailures, repeats, hs, hseen]
    · have hvalid : validSlug? (.text s) = none := by simp [validSlug?, Value.text?, hs]
      rw [hvalid]
      simp [slugFailures, repeats, hs]
  | _ => simp [slugFailures, repeats, validSlug?, Value.text?]

def partFailures (names : Pattern.Names) : Field → Except Fault (List Failure)
  | .group a children =>
    if children.isEmpty then pure [fieldFailure a "is a group but has no fields." "EMPTY_GROUP"]
    else siblingFailures names false [] children
  | .unknown v a => typeFailures (.unknown v a)
  | f => pure (variantFailures f)

theorem partFailures_group (a : Attributes) (children : List Field) :
    partFailures names (.group a children) = if children.isEmpty then
      pure [fieldFailure a "is a group but has no fields." "EMPTY_GROUP"]
      else siblingFailures names false [] children := rfl

/-- What is reported of a field whatever its siblings are. -/
def aloneFailures (names : Pattern.Names) (root : Bool) (f : Field) :
    Except Fault (List Failure) := do
  let slug ← ownSlugFailures f.slug
  let parts ← partFailures names f
  return slug ++ nameFailures f.attributes ++ parts ++ (← commonFailures names root f.attributes)

theorem fieldFailures_eq (root : Bool) (seen : List String) (f : Field) :
    fieldFailures names root seen f = (do
      return (repetition seen f.slug ++ (← aloneFailures names root f), seenWith seen f.slug)) := by
  unfold aloneFailures
  cases f with
  | group a children =>
    cases hchildren : children.isEmpty <;>
      simp [fieldFailures, slugFailures_eq, partFailures, Field.slug, attributes, hchildren]
  | _ => simp [fieldFailures, slugFailures_eq, partFailures, Field.slug, attributes]

theorem siblingFailures_cons (root : Bool) (seen : List String) (f : Field) (fs : List Field) :
    siblingFailures names root seen (f :: fs) = (do
      let alone ← aloneFailures names root f
      let rest ← siblingFailures names root (seenWith seen f.slug) fs
      return repetition seen f.slug ++ alone ++ rest) := by
  rw [siblingFailures, fieldFailures_eq]
  cases aloneFailures names root f with
  | error fault => rfl
  | ok alone => rfl

def AloneAll (names : Pattern.Names) (root : Bool) (fs : List Field)
    (alones : List (List Failure)) : Prop :=
  List.Forall₂ (fun f xs => aloneFailures names root f = .ok xs) fs alones

theorem exists_aloneAll {root : Bool} {seen : List String} {fs : List Field} {xs : List Failure}
    (h : siblingFailures names root seen fs = .ok xs) :
    ∃ alones, AloneAll names root fs alones := by
  induction fs generalizing seen xs with
  | nil => exact ⟨[], .nil⟩
  | cons f fs ih =>
    rw [siblingFailures_cons] at h
    obtain ⟨alone, halone, h⟩ := bind_eq_ok.1 h
    obtain ⟨rest, hrest, _⟩ := bind_eq_ok.1 h
    obtain ⟨alones, halones⟩ := ih hrest
    exact ⟨alone :: alones, .cons halone halones⟩

/-- The failures of siblings are their repeated slugs, and what is reported of each alone. -/
theorem AloneAll.perm {root : Bool} {fs : List Field} {alones : List (List Failure)}
    (h : AloneAll names root fs alones) (seen : List String) :
    ∃ xs, siblingFailures names root seen fs = .ok xs ∧
      xs.Perm ((repeats seen (validSlugs fs)).map duplicate ++ alones.flatten) := by
  induction h generalizing seen with
  | nil => exact ⟨[], rfl, .nil⟩
  | @cons f alone fs alones halone _ ih =>
    obtain ⟨rest, hrest, hperm⟩ := ih (seenWith seen f.slug)
    refine ⟨repetition seen f.slug ++ alone ++ rest, ?_, ?_⟩
    · rw [siblingFailures_cons, halone, hrest]
      rfl
    · -- what the first is reported for alone moves behind the repetitions of the others
      have hmoved : (alone ++ rest).Perm ((repeats (seenWith seen f.slug) (validSlugs fs)).map
          duplicate ++ (alone ++ alones.flatten)) :=
        (hperm.append_left alone).trans (List.perm_append_comm_assoc _ _ _)
      rw [repeats_validSlugs_cons, List.flatten_cons, List.append_assoc, List.append_assoc]
      exact hmoved.append_left _

theorem siblingFailures_perm {root : Bool} {seen : List String} {fs gs : List Field}
    (h : fs.Perm gs) {xs : List Failure} (hxs : siblingFailures names root seen fs = .ok xs) :
    ∃ ys, siblingFailures names root seen gs = .ok ys ∧ ys.Perm xs := by
  obtain ⟨alones, halones⟩ := exists_aloneAll hxs
  obtain ⟨alones', halones', hperm⟩ := List.perm_comp_forall₂ h.symm halones
  obtain ⟨xs', hxs', hfirst⟩ := halones.perm seen
  obtain ⟨ys, hys, hsecond⟩ := AloneAll.perm halones' seen
  obtain rfl := Except.ok.inj (hxs.symm.trans hxs')
  have hslugs : (validSlugs gs).Perm (validSlugs fs) := h.symm.filterMap _
  have hrepeats := (repeats_perm hslugs seen).map duplicate
  exact ⟨ys, hys, hsecond.trans ((hrepeats.append hperm.flatten).trans hfirst.symm)⟩

section
variable {root : Bool} {children children' : List Field}
  (hempty : children'.isEmpty = children.isEmpty)
  (hbelow : ∀ xs, siblingFailures names false [] children = .ok xs →
    ∃ ys, siblingFailures names false [] children' = .ok ys ∧ ys.Perm xs)
include hempty hbelow

theorem partFailures_group_perm (a : Attributes) {xs : List Failure}
    (hxs : partFailures names (.group a children) = .ok xs) :
    ∃ ys, partFailures names (.group a children') = .ok ys ∧ ys.Perm xs := by
  rw [partFailures_group] at hxs ⊢
  rw [hempty]
  cases hchildren : children.isEmpty with
  | true =>
    rw [hchildren] at hxs
    exact ⟨xs, hxs, .refl _⟩
  | false =>
    rw [hchildren] at hxs
    exact hbelow xs hxs

theorem aloneFailures_group_perm (a : Attributes) {xs : List Failure}
    (hxs : aloneFailures names root (.group a children) = .ok xs) :
    ∃ ys, aloneFailures names root (.group a children') = .ok ys ∧ ys.Perm xs := by
  obtain ⟨slug, hslug, hxs⟩ := bind_eq_ok.1 hxs
  obtain ⟨parts, hparts, hxs⟩ := bind_eq_ok.1 hxs
  obtain ⟨common, hcommon, hxs⟩ := bind_eq_ok.1 hxs
  obtain ⟨parts', hparts', hperm⟩ := partFailures_group_perm hempty hbelow a hparts
  refine ⟨_, bind_eq_ok.2 ⟨slug, hslug, bind_eq_ok.2 ⟨parts', hparts',
    bind_eq_ok.2 ⟨common, hcommon, rfl⟩⟩⟩, ?_⟩
  rw [← Except.ok.inj hxs]
  exact (hperm.append_left _).append_right _

theorem siblingFailures_group_perm (before after : List Field) (a : Attributes)
    (seen : List String) {xs : List Failure}
    (hxs : siblingFailures names root seen (before ++ .group a children :: after) = .ok xs) :
    ∃ ys, siblingFailures names root seen (before ++ .group a children' :: after) = .ok ys ∧
      ys.Perm xs := by
  induction before generalizing seen xs with
  | nil =>
    rw [List.nil_append, siblingFailures_cons] at hxs ⊢
    obtain ⟨alone, halone, hxs⟩ := bind_eq_ok.1 hxs
    obtain ⟨rest, hrest, hxs⟩ := bind_eq_ok.1 hxs
    obtain ⟨alone', halone', hperm⟩ := aloneFailures_group_perm hempty hbelow a halone
    refine ⟨_, bind_eq_ok.2 ⟨alone', halone', bind_eq_ok.2 ⟨rest, hrest, rfl⟩⟩, ?_⟩
    rw [← Except.ok.inj hxs]
    exact (hperm.append_left _).append_right _
  | cons f before ih =>
    rw [List.cons_append, siblingFailures_cons] at hxs ⊢
    obtain ⟨alone, halone, hxs⟩ := bind_eq_ok.1 hxs
    obtain ⟨rest, hrest, hxs⟩ := bind_eq_ok.1 hxs
    obtain ⟨rest', hrest', hperm⟩ := ih _ hrest
    refine ⟨_, bind_eq_ok.2 ⟨alone, halone, bind_eq_ok.2 ⟨rest', hrest', rfl⟩⟩, ?_⟩
    rw [← Except.ok.inj hxs]
    exact hperm.append_left _

end

/-- Putting the fields of one level in another order does the same to the failures. -/
theorem siblingFailures_reorders {fs gs : List Field} (h : Reorders fs gs) (root : Bool)
    (seen : List String) {xs : List Failure} (hxs : siblingFailures names root seen fs = .ok xs) :
    ∃ ys, siblingFailures names root seen gs = .ok ys ∧ ys.Perm xs := by
  induction h generalizing root seen xs with
  | level h => exact siblingFailures_perm h hxs
  | inside before after a h ih =>
    exact siblingFailures_group_perm h.isEmpty_eq (fun _ hbelow => ih false [] hbelow) before
      after a
      seen hxs

theorem checkFields_reorders {root : Bool} {fs gs : List Field} (h : Reorders fs gs)
    {report : Report} (hreport : checkFields names root fs = .ok report) :
    ∃ report', checkFields names root gs = .ok report' ∧ report'.failures.Perm report.failures := by
  rw [checkFields_eq] at hreport ⊢
  rw [h.isEmpty_eq]
  cases hempty : fs.isEmpty with
  | true =>
    rw [hempty] at hreport
    exact ⟨report, hreport, .refl _⟩
  | false =>
    rw [hempty] at hreport
    obtain ⟨xs, hxs, hreport⟩ := bind_eq_ok.1 hreport
    obtain rfl := Except.ok.inj hreport
    obtain ⟨ys, hys, hperm⟩ := siblingFailures_reorders h root [] hxs
    exact ⟨⟨ys⟩, bind_eq_ok.2 ⟨ys, hys, rfl⟩, hperm⟩

theorem checkFields_reordered {root : Bool} {fs gs : List Field} {report : Report}
    (hreport : checkFields names root fs = .ok report) (h : Relation.ReflTransGen Reorders fs gs) :
    ∃ report', checkFields names root gs = .ok report' ∧ report'.failures.Perm report.failures := by
  induction h with
  | refl => exact ⟨report, hreport, .refl _⟩
  | tail _ hstep ih =>
    obtain ⟨between, hbetween, hperm⟩ := ih
    obtain ⟨report', hreport', hperm'⟩ := checkFields_reorders hstep hbetween
    exact ⟨report', hreport', hperm'.trans hperm⟩

/-- How often a slug is reported as declared before. -/
def duplicates (xs : List Failure) : Nat := xs.countP fun x => x.code == "DUPLICATE_SLUG"

@[simp, grind =] theorem duplicates_append (xs ys : List Failure) :
    duplicates (xs ++ ys) = duplicates xs + duplicates ys := List.countP_append

theorem AreOther.duplicates_eq {xs : List Failure} (h : AreOther xs) : duplicates xs = 0 := by
  unfold duplicates
  rw [List.countP_eq_zero]
  intro x hx
  rw [beq_iff_eq]
  exact h x hx

@[simp, grind =]
theorem duplicates_map (ss : List String) : duplicates (ss.map duplicate) = ss.length := by
  unfold duplicates
  rw [List.countP_map, List.countP_eq_length]
  intro s _
  rfl

def Reports (names : Pattern.Names) (lists : List (List Field)) (reports : List Report) : Prop :=
  List.Forall₂ (fun fields report => checkFields names false fields = .ok report) lists reports

theorem Reports.exists_of_mem {lists : List (List Field)} {reports : List Report}
    (h : Reports names lists reports) :
    ∀ fields ∈ lists, ∃ report, checkFields names false fields = .ok report := by
  induction h with
  | nil => exact nofun
  | cons hfields _ ih => exact List.forall_mem_cons.2 ⟨⟨_, hfields⟩, ih⟩

def duplicatesIn (reports : List Report) : Nat := (reports.map fun r => duplicates r.failures).sum

theorem duplicates_partFailures {names : Pattern.Names} {f : Field} {xs : List Failure}
    (h : partFailures names f = .ok xs) :
    ∃ inner, Reports names f.childLists inner ∧ duplicates xs = duplicatesIn inner := by
  cases f with
  | group a children =>
    rw [partFailures_group] at h
    cases hempty : children.isEmpty with
    | true =>
      rw [hempty] at h
      obtain rfl := Except.ok.inj h
      refine ⟨[noFields], .cons ?_ .nil, rfl⟩
      rw [checkFields_eq, hempty]
      rfl
    | false =>
      rw [hempty] at h
      refine ⟨[⟨xs⟩], .cons ?_ .nil, rfl⟩
      rw [checkFields_eq, hempty]
      exact bind_eq_ok.2 ⟨xs, h, rfl⟩
  | leaf t a =>
    obtain rfl := Except.ok.inj h
    exact ⟨[], .nil, (areOther_variantFailures _).duplicates_eq⟩
  | unknown v a =>
    have htype : typeFailures (.unknown v a) = .ok xs := h
    exact ⟨[], .nil, (areOther_typeFailures htype).duplicates_eq⟩
  | select a choices =>
    obtain rfl := Except.ok.inj h
    exact ⟨[], .nil, (areOther_variantFailures _).duplicates_eq⟩

theorem areOther_ownSlugFailures {slug : Value} {xs : List Failure}
    (h : ownSlugFailures slug = .ok xs) : AreOther xs := by
  unfold ownSlugFailures at h
  split at h
  · obtain rfl := Except.ok.inj h
    exact nofun
  · obtain ⟨x, hx, h⟩ := bind_eq_ok.1 h
    obtain rfl := Except.ok.inj h
    obtain ⟨name, _, hx⟩ := bind_eq_ok.1 hx
    obtain rfl := Except.ok.inj hx
    exact List.forall_mem_singleton.2 (by simp)

theorem duplicates_aloneFailures {root : Bool} {f : Field} {xs : List Failure}
    (h : aloneFailures names root f = .ok xs) :
    ∃ inner, Reports names f.childLists inner ∧ duplicates xs = duplicatesIn inner := by
  obtain ⟨slug, hslug, h⟩ := bind_eq_ok.1 h
  obtain ⟨parts, hparts, h⟩ := bind_eq_ok.1 h
  obtain ⟨common, hcommon, h⟩ := bind_eq_ok.1 h
  obtain rfl := Except.ok.inj h
  obtain ⟨inner, hinner, hcount⟩ := duplicates_partFailures hparts
  refine ⟨inner, hinner, ?_⟩
  rw [duplicates_append, duplicates_append, duplicates_append,
    (areOther_ownSlugFailures hslug).duplicates_eq, (areOther_nameFailures _).duplicates_eq,
    (areOther_commonFailures hcommon).duplicates_eq, hcount]
  omega

theorem AloneAll.duplicates_eq {root : Bool} {fs : List Field} {alones : List (List Failure)}
    (h : AloneAll names root fs alones) : ∃ inner, Reports names (fs.flatMap childLists) inner ∧
      duplicates alones.flatten = duplicatesIn inner := by
  induction h with
  | nil => exact ⟨[], .nil, rfl⟩
  | cons halone _ ih =>
    obtain ⟨first, hfirst, hcount⟩ := duplicates_aloneFailures halone
    obtain ⟨inner, hinner, hrest⟩ := ih
    refine ⟨first ++ inner, List.rel_append hfirst hinner, ?_⟩
    unfold duplicatesIn at hcount hrest ⊢
    rw [List.flatten_cons, duplicates_append, hcount, hrest, List.map_append, List.sum_append]

/-- A slug is reported as often as fields have a valid slug beyond one for each, at the level itself
and at the levels right below it. -/
theorem duplicates_report {root : Bool} {fields : List Field} {report : Report}
    (h : checkFields names root fields = .ok report) :
    ∃ inner, Reports names (fields.flatMap childLists) inner ∧ duplicates report.failures =
      ((validSlugs fields).length - (validSlugs fields).dedup.length) + duplicatesIn inner := by
  rw [checkFields_eq] at h
  cases fields with
  | nil =>
    obtain rfl := Except.ok.inj h
    exact ⟨[], .nil, rfl⟩
  | cons f fs =>
    obtain ⟨xs, hxs, h⟩ := bind_eq_ok.1 h
    obtain rfl := Except.ok.inj h
    obtain ⟨alones, halones⟩ := exists_aloneAll hxs
    obtain ⟨xs', hxs', hperm⟩ := halones.perm []
    obtain rfl := Except.ok.inj (hxs.symm.trans hxs')
    obtain ⟨inner, hinner, hcount⟩ := halones.duplicates_eq
    refine ⟨inner, hinner, ?_⟩
    have hduplicates : duplicates xs = _ := hperm.countP_eq _
    rw [hduplicates, ← duplicates, duplicates_append, duplicates_map, length_repeats, hcount]

theorem AloneAll.anywhere {root : Bool} {fs : List Field} {alones : List (List Failure)}
    (h : AloneAll names root fs alones) (root' : Bool) :
    ∃ alones', AloneAll names root' fs alones' := by
  induction h with
  | nil => exact ⟨[], .nil⟩
  | cons halone _ ih =>
    obtain ⟨slug, hslug, halone⟩ := bind_eq_ok.1 halone
    obtain ⟨parts, hparts, halone⟩ := bind_eq_ok.1 halone
    obtain ⟨common, hcommon, _⟩ := bind_eq_ok.1 halone
    obtain ⟨rules, _, hcommon'⟩ := commonFailures_cases hcommon
    obtain ⟨alones', halones'⟩ := ih
    exact ⟨_, .cons (bind_eq_ok.2 ⟨slug, hslug, bind_eq_ok.2 ⟨parts, hparts,
      bind_eq_ok.2 ⟨_, hcommon' root', rfl⟩⟩⟩) halones'⟩

theorem checkFields_anywhere {root : Bool} {fields : List Field} {report : Report}
    (h : checkFields names root fields = .ok report) (root' : Bool) :
    ∃ report', checkFields names root' fields = .ok report' := by
  rw [checkFields_eq] at h ⊢
  cases fields with
  | nil => exact ⟨report, h⟩
  | cons f fs =>
    obtain ⟨xs, hxs, _⟩ := bind_eq_ok.1 h
    obtain ⟨alones, halones⟩ := exists_aloneAll hxs
    obtain ⟨alones', halones'⟩ := halones.anywhere root'
    obtain ⟨ys, hys, _⟩ := halones'.perm []
    exact ⟨⟨ys⟩, bind_eq_ok.2 ⟨ys, hys, rfl⟩⟩

theorem exists_report_of_layer {fields siblings : List Field} (hs : Layer fields siblings)
    {root : Bool} {report : Report} (h : checkFields names root fields = .ok report) :
    ∃ root' report', checkFields names root' siblings = .ok report' := by
  induction hs generalizing root report with
  | top fields => exact ⟨root, report, h⟩
  | @inside fields siblings children a hg _ ih =>
    obtain ⟨inner, hinner, _⟩ := duplicates_report h
    have hmem : children ∈ fields.flatMap childLists :=
      List.mem_flatMap.2 ⟨_, hg, List.mem_singleton_self _⟩
    obtain ⟨r, hr⟩ := hinner.exists_of_mem children hmem
    exact ih hr

/-- Fields that are checked are checked in any other order of any levels, with the same failures but
for their order. At each level as many slugs are reported as declared before as there are fields
with a valid slug beyond one for each valid slug; the other reports of that kind are those of the
groups right below. -/
theorem checkFields_order_irrelevant {root : Bool} {fields : List Field} {report : Report}
    (h : checkFields names root fields = .ok report) :
    (∀ gs, Relation.ReflTransGen Reorders fields gs →
      ∃ report', checkFields names root gs = .ok report' ∧
      report'.failures.Perm report.failures) ∧
    ∀ siblings, Layer fields siblings → ∀ root', ∃ report' inner,
      checkFields names root' siblings = .ok report' ∧
      List.Forall₂ (fun children r => checkFields names false children = .ok r)
        (siblings.flatMap childLists) inner ∧
      report'.failures.countP (·.code == "DUPLICATE_SLUG") =
        ((validSlugs siblings).length - (validSlugs siblings).dedup.length) +
          (inner.map fun r => r.failures.countP (·.code == "DUPLICATE_SLUG")).sum := by
  refine ⟨fun gs => checkFields_reordered h, fun siblings hs root' => ?_⟩
  obtain ⟨_, _, hreport⟩ := exists_report_of_layer hs h
  obtain ⟨report', hreport'⟩ := checkFields_anywhere hreport root'
  obtain ⟨inner, hinner, hcount⟩ := duplicates_report hreport'
  exact ⟨report', inner, hreport', hinner, hcount⟩

def page (children : List Field) : List Field := [.group (.ofRules "page" []) children]

def nameText : Field := .leaf .text (.ofRules "name" [])

def bornDate : Field := .leaf .date (.ofRules "born" [])

def nameEmail : Field := .leaf .email (.ofRules "name" [])

/-- A page with two fields of one slug is checked in another order too, and the slug is reported
once. -/
theorem checkFields_order_irrelevant_page :
    ∃ report report', checkFields .none true (page [nameText, bornDate, nameEmail]) = .ok report ∧
      checkFields .none true (page [nameEmail, nameText, bornDate]) = .ok report' ∧
      report'.failures.Perm report.failures ∧
      report.failures.map (·.code) = ["DUPLICATE_SLUG"] := by
  have hcodes : (checkFields .none true (page [nameText, bornDate, nameEmail])).toOption.map
      (fun r => r.failures.map (·.code)) = some ["DUPLICATE_SLUG"] := by
    decide +kernel
  obtain ⟨report, hreport, hcodes⟩ := exists_of_toOption hcodes
  have hturned : [nameText, bornDate, nameEmail].Perm [nameEmail, nameText, bornDate] := by
    show ([nameText, bornDate] ++ [nameEmail]).Perm ([nameEmail] ++ [nameText, bornDate])
    exact List.perm_append_comm
  have hstep : Reorders (page [nameText, bornDate, nameEmail])
      (page [nameEmail, nameText, bornDate]) := .inside [] [] _ (.level hturned)
  obtain ⟨report', hreport', hperm⟩ := (checkFields_order_irrelevant hreport).1 _ (.single hstep)
  exact ⟨report, report', hreport, hreport', hperm, hcodes⟩

end Definition

end Intake
