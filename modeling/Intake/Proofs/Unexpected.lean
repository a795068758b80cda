import Intake.Proofs.Levels
import Intake.Proofs.Values

/-! Slugs that nobody declares. Every level that is visited names what is submitted at it and below
and is declared neither there nor below, as often as it is submitted, so that a slug deep inside
groups is named once for each level on the way. -/

namespace Intake

/-- A value that can be looked up, and written in the failure that names it. -/
structure Value.CanBeNamed (v : Value) : Prop where
  isKey : v.IsKey
  isWritable : v.isWritable = true

theorem Value.IsText.canBeNamed {v : Value} (hv : v.IsText) : v.CanBeNamed := by
  obtain ⟨s, rfl⟩ := hv
  exact ⟨rfl, rfl⟩

def Value.occurrences (s : String) (slugs : List Value) : Nat := slugs.countP (·.equal (.text s))

@[simp, grind =] theorem Value.occurrences_append (s : String) (xs ys : List Value) :
    Value.occurrences s (xs ++ ys) = Value.occurrences s xs + Value.occurrences s ys :=
  List.countP_append

def Validation.unexpectedOf (failures : List Failure) : List Failure :=
  failures.filter fun x => x.code == "UNEXPECTED_FIELD"

/-- How often a text is among what is submitted at some levels and below each of them. -/
def Level.timesSubmitted (s : String) : List Level → Nat
  | [] => 0
  | l :: levels => Value.occurrences s (Answer.slugs l.answers) + timesSubmitted s levels

def Report.timesUnexpected (r : Report) (s : String) : Nat :=
  Value.occurrences s ((Validation.unexpectedOf r.failures).map (·.slug))

def Field.Populated (fields : List Field) : Prop :=
  ∀ siblings, Field.Layer fields siblings → siblings ≠ []

theorem Field.Populated.below {fields children : List Field} {a : Attributes}
    (h : Populated fields) (hg : .group a children ∈ fields) : Populated children :=
  fun siblings hs => h siblings (.inside hg hs)

namespace Validation

@[simp, grind =] theorem unexpectedOf_append (xs ys : List Failure) :
    unexpectedOf (xs ++ ys) = unexpectedOf xs ++ unexpectedOf ys :=
  List.filter_append xs ys

@[simp, grind =] theorem unexpectedOf_map (slugs : List Value) :
    unexpectedOf (slugs.map unexpected) = slugs.map unexpected := by
  unfold unexpectedOf
  rw [List.filter_eq_self, List.forall_mem_map]
  exact fun s _ => rfl

@[simp, grind =] theorem unexpectedOf_underGroup (slug : Value) (below : List Failure) :
    unexpectedOf (underGroup slug below) = unexpectedOf below := by
  unfold underGroup
  split
  · rename_i hempty
    rw [List.isEmpty_iff.1 hempty]
  · rfl

theorem guardedFailures_unexpectedOf {c : Context} (slug value : Value) (bag : RuleBag)
    (isGroup : Bool) :
    (guardedFailures c slug value bag isGroup).Gives fun own => unexpectedOf own = [] := by
  intro e own e' hrun
  unfold unexpectedOf
  rw [List.filter_eq_nil_iff]
  intro x hx
  rw [beq_iff_eq]
  exact (guardedFailures_code c slug value bag isGroup e own e' hrun x hx).2

end Validation

namespace Level
open Validation

/-- What is submitted at a level, `names` with it, and declared neither there nor below. -/
def undeclared (names : List Value) (l : Level) : List Value :=
  (Answer.slugs l.answers ++ names).filter fun s => !(Field.slugsOf l.fields).any s.equal

mutual

def levelsAt (l : Level) : Field → List Level
  | .group a children => l.below a children :: levelsBelow (l.below a children) children
  | .leaf _ _ => []
  | .unknown _ _ => []
  | .select _ _ => []
termination_by structural f => f

def levelsBelow (l : Level) : List Field → List Level
  | [] => []
  | f :: fs => levelsAt l f ++ levelsBelow l fs
termination_by structural fs => fs

end

/-- A level and all levels below it that are visited, in the order of their visits. -/
def visited (l : Level) : List Level := l :: levelsBelow l l.fields

mutual

theorem reaches_of_mem_levelsAt {l m : Level} {f : Field} (h : m ∈ levelsAt l f)
    (hf : f ∈ l.fields) :
    l.Reaches m := by
  match f with
  | .group a children =>
    rcases List.mem_cons.1 h with rfl | h
    · exact .down hf (.here _)
    · exact .down hf (reaches_of_mem_levelsBelow h fun _ hg => hg)
  | .leaf _ _ | .unknown _ _ | .select _ _ => cases h
termination_by structural f

theorem reaches_of_mem_levelsBelow {l m : Level} {fs : List Field} (h : m ∈ levelsBelow l fs)
    (hsub : fs ⊆ l.fields) : l.Reaches m := by
  match fs with
  | [] => cases h
  | f :: fs =>
    rcases List.mem_append.1 h with h | h
    · exact reaches_of_mem_levelsAt h (hsub List.mem_cons_self)
    · exact reaches_of_mem_levelsBelow h fun g hg => hsub (List.mem_cons_of_mem _ hg)
termination_by structural fs

end

theorem levelsAt_subset {l : Level} {fs : List Field} {f : Field} (hf : f ∈ fs) :
    levelsAt l f ⊆ levelsBelow l fs := by
  induction fs with
  | nil => cases hf
  | cons g fs ih =>
    rcases List.mem_cons.1 hf with rfl | hf
    · exact List.subset_append_left _ _
    · exact fun m hm => List.mem_append_right _ (ih hf hm)

@[simp] theorem mem_visited_iff {l m : Level} : m ∈ l.visited ↔ l.Reaches m := by
  constructor
  · intro h
    rcases List.mem_cons.1 h with rfl | h
    · exact .here _
    · exact reaches_of_mem_levelsBelow h fun _ hf => hf
  · intro h
    induction h with
    | here l => exact List.mem_cons_self
    | @down l m a children hg _ ih => exact List.mem_cons_of_mem _ (levelsAt_subset hg ih)

variable {c : Context} {uploads : List Upload}

theorem report_of_nonempty {l : Level} (h : l.fields ≠ []) (names : List Value)
    (failures : List Failure) :
    l.report names failures = (l.undeclared names).map unexpected ++ failures := by
  unfold report
  rw [if_neg (by rwa [List.isEmpty_iff])]
  rfl

/-- A visit names, for every level that it leads to, what is declared neither there nor below. -/
theorem Visit.unexpectedOf_eq {l : Level} {fs : List Field} {e e' : Captcha.Exchange}
    {failures : List Failure} (hv : Visit c uploads l fs e failures e')
    (hfull : ∀ a children, .group a children ∈ fs → Field.Populated children) :
    unexpectedOf failures = ((levelsBelow l fs).flatMap (undeclared [])).map unexpected := by
  induction hv with
  | done => rfl
  | @leaf l f fs e e₁ e₂ own rest hf hown hrest ih =>
    have hown' := guardedFailures_unexpectedOf _ _ _ _ _ _ _ hown
    have hnone : levelsAt l f = [] := by
      cases f with
      | group a children => cases hf
      | _ => rfl
    rw [unexpectedOf_append, hown', levelsBelow, hnone]
    exact ih fun a children hg => hfull a children (List.mem_cons_of_mem _ hg)
  | @group l a children fs e e₁ e₂ e₃ inner own rest hinner hown hrest ihinner ihrest =>
    have hchildren : Field.Populated children := hfull a children List.mem_cons_self
    have hown' := guardedFailures_unexpectedOf _ _ _ _ _ _ _ hown
    have hbelow := ihinner fun a children hg => hchildren.below hg
    have hafter := ihrest fun a children hg => hfull a children (List.mem_cons_of_mem _ hg)
    -- without fields the level below would report that, and nothing that is submitted there
    have hne : (l.below a children).fields ≠ [] := hchildren children (.top children)
    rw [unexpectedOf_append, unexpectedOf_append, unexpectedOf_underGroup, report_of_nonempty hne,
      unexpectedOf_append, unexpectedOf_map, hown', hbelow, hafter, levelsBelow, levelsAt]
    simp only [List.cons_append, List.flatMap_cons, List.flatMap_append, List.map_append,
      List.append_nil, List.append_assoc]

theorem not_declared_iff {declared : List Value} {s : String} :
    (!declared.any (Value.text s).equal) = true ↔ .text s ∉ declared := by
  have htext : Value.IsText (.text s) := ⟨s, rfl⟩
  rw [Bool.not_eq_true', Bool.eq_false_iff, ne_eq, htext.any_equal_iff]

theorem occurrences_undeclared {l : Level} {s : String} (h : .text s ∉ Field.slugsOf l.fields)
    (names : List Value) :
    Value.occurrences s (l.undeclared names) =
      Value.occurrences s (Answer.slugs l.answers) + Value.occurrences s names := by
  rw [← Value.occurrences_append]
  unfold Value.occurrences undeclared
  rw [List.countP_filter]
  refine List.countP_congr fun v _ => ?_
  rw [Bool.and_eq_true, and_iff_left_iff_imp, Value.equal_text_iff]
  rintro rfl
  exact not_declared_iff.2 h

theorem occurrences_slugs_unexpected (s : String) (slugs : List Value) :
    Value.occurrences s ((slugs.map unexpected).map (·.slug)) = Value.occurrences s slugs := by
  rw [List.map_map]
  exact congrArg _ (List.map_id slugs)

theorem occurrences_flatMap_undeclared {l : Level} {s : String}
    (h : .text s ∉ Field.slugsOf l.fields) {levels : List Level}
    (hlevels : ∀ m ∈ levels, l.Reaches m) :
    Value.occurrences s (levels.flatMap (undeclared [])) = timesSubmitted s levels := by
  induction levels with
  | nil => rfl
  | cons m levels ih =>
    rw [List.forall_mem_cons] at hlevels
    have hm : .text s ∉ Field.slugsOf m.fields := fun hs => h (hlevels.1.slugsOf_subset hs)
    have hhere : Value.occurrences s (m.undeclared []) =
        Value.occurrences s (Answer.slugs m.answers) := occurrences_undeclared hm []
    rw [List.flatMap_cons, Value.occurrences_append, hhere, ih hlevels.2]
    rfl

/-- Where a form and all groups have fields, their slugs and the names of uploads can be named, and
what is submitted has texts for slugs, a report names what is not expected level by level: at each
that is visited what is submitted there or below, uploads only at the first, and declared neither
there nor below. A text that the form does not declare is named once for each time that it is an
upload's name or among what is submitted at such a level. -/
theorem check_unexpected (c : Context) (l : Level) (uploads : List Upload)
    (hfull : Field.Populated l.fields) (hf : ∀ s ∈ Field.slugsOf l.fields, s.CanBeNamed)
    (ha : ∀ s ∈ Answer.slugs l.answers, s.IsText) (hu : ∀ u ∈ uploads, u.fieldName.CanBeNamed)
    (e : Captcha.Exchange) :
    ∃ report e', (check c l.answers l.fields uploads).outcome e = (.ok report, e') ∧
      unexpectedOf report.failures = (l.undeclared (uploads.map (·.fieldName)) ++
        (levelsBelow l l.fields).flatMap (undeclared [])).map unexpected ∧
      (∀ s : String, .text s ∉ Field.slugsOf l.fields →
        report.timesUnexpected s = Value.occurrences s (uploads.map (·.fieldName)) +
            timesSubmitted s l.visited ∧
          (.text s ∈ Answer.slugs l.answers ++ uploads.map (·.fieldName) →
            report.isValid = false)) ∧
      (∀ m, m ∈ l.visited ↔ l.Reaches m) ∧
      ∀ m ∈ l.visited, ∀ names, ∀ v ∈ m.undeclared names, ∀ w ∈ Field.slugsOf m.fields,
        v.equal w = false := by
  obtain ⟨failures, e', hrun, hvisit⟩ := check_visit_of_keys (c := c) (fun s hs => (hf s hs).isKey)
    (fun s hs => (ha s hs).isKey) (fun u hu' => (hu u hu').isKey) e
  have hnamed := hvisit.unexpectedOf_eq fun a children hg => hfull.below hg
  have hall : unexpectedOf (l.report (uploads.map (·.fieldName)) failures) =
      (l.undeclared (uploads.map (·.fieldName)) ++
        (levelsBelow l l.fields).flatMap (undeclared [])).map unexpected := by
    rw [report_of_nonempty (hfull l.fields (.top l.fields)), unexpectedOf_append, unexpectedOf_map,
      hnamed, List.map_append]
  have hbelow : ∀ m ∈ levelsBelow l l.fields, l.Reaches m :=
    fun m hm => mem_visited_iff.1 (List.mem_cons_of_mem _ hm)
  refine ⟨_, e', hrun, hall, fun s hs => ⟨?_, fun hmem => ?_⟩, fun m => mem_visited_iff,
    fun m _ names v hv w hw => ?_⟩
  · have hbelow' := occurrences_flatMap_undeclared hs hbelow
    have hhere := occurrences_undeclared hs (uploads.map (·.fieldName))
    unfold Report.timesUnexpected visited timesSubmitted
    rw [hall, occurrences_slugs_unexpected, Value.occurrences_append, hhere, hbelow']
    omega
  · have hleft : .text s ∈ l.undeclared (uploads.map (·.fieldName)) :=
      List.mem_filter.2 ⟨hmem, not_declared_iff.2 hs⟩
    have hreported : unexpected (.text s) ∈
        unexpectedOf (l.report (uploads.map (·.fieldName)) failures) := by
      rw [hall]
      exact List.mem_map_of_mem (List.mem_append_left _ hleft)
    have hfailure := (List.mem_filter.1 hreported).1
    unfold Report.isValid
    rw [List.isEmpty_eq_false_iff]
    exact List.ne_nil_of_mem hfailure
  · have hany := (List.mem_filter.1 hv).2
    rw [Bool.not_eq_true', List.any_eq_false] at hany
    exact Bool.eq_false_iff.2 (hany w hw)

def listed : Field := .leaf .text { Attributes.ofRules "a" [] with slug := .list [.text "a"] }

def stray : Answer := ⟨.text "x", .int 1⟩

/-- A form without fields reports nothing else, and so does one with a slug that cannot be looked
up: an answer that nobody declares is named in neither report, though it is submitted once. -/
theorem unexpected_not_named :
    (∃ report e', (check .newYear [stray] [] []).outcome (.start []) = (.ok report, e') ∧
      .text "x" ∉ Field.slugsOf [] ∧ report.timesUnexpected "x" = 0 ∧
      timesSubmitted "x" (visited ⟨[], [stray]⟩) = 1) ∧
    ∃ report e', (check .newYear [stray] [listed] []).outcome (.start []) = (.ok report, e') ∧
      .text "x" ∉ Field.slugsOf [listed] ∧ report.timesUnexpected "x" = 0 ∧
      timesSubmitted "x" (visited ⟨[listed], [stray]⟩) = 1 := by
  constructor
  · exact ⟨⟨[noFields]⟩, .start [], rfl, by simp [Field.slugsOf], rfl, rfl⟩
  · refine ⟨_, .start [], rfl, ?_, rfl, rfl⟩
    simp [Field.slugsOf, Field.slugs, listed]

def tour : Level :=
  ⟨[.group (.ofRules "trip" []) [.leaf .text (.ofRules "stop" [])]],
    [⟨.text "trip", .list [.answer (.text "stop") (.text "Rome"), .answer (.text "hat") .null]⟩]⟩

def hat : Upload := ⟨.text "hat", .null, .null, .null, .null⟩

/-- The hat is named at both levels, and once more for the upload. -/
theorem check_unexpected_tour :
    ∃ report e', (check .newYear tour.answers tour.fields [hat]).outcome (.start []) =
        (.ok report, e') ∧ report.timesUnexpected "hat" = 3 ∧ report.isValid = false := by
  have hfull : Field.Populated tour.fields := by
    intro siblings hs
    cases hs with
    | top => exact List.cons_ne_nil _ _
    | inside hg hs =>
      obtain ⟨rfl, rfl⟩ := Field.group.inj (List.mem_singleton.1 hg)
      cases hs with
      | top => exact List.cons_ne_nil _ _
      | inside hg _ => exact absurd (List.mem_singleton.1 hg) Field.noConfusion
  have hf : ∀ s ∈ Field.slugsOf tour.fields, s.CanBeNamed := by
    intro s hs
    have hslugs : s ∈ [.text "trip", .text "stop"] := hs
    simp only [List.mem_cons, List.not_mem_nil, or_false] at hslugs
    rcases hslugs with rfl | rfl <;> exact Value.IsText.canBeNamed ⟨_, rfl⟩
  have ha : ∀ s ∈ Answer.slugs tour.answers, s.IsText := by
    intro s hs
    have hslugs : s ∈ [.text "trip", .text "stop", .text "hat"] := hs
    simp only [List.mem_cons, List.not_mem_nil, or_false] at hslugs
    rcases hslugs with rfl | rfl | rfl <;> exact ⟨_, rfl⟩
  have hu : ∀ u ∈ [hat], u.fieldName.CanBeNamed := by
    intro u hmem
    obtain rfl := List.mem_singleton.1 hmem
    exact Value.IsText.canBeNamed ⟨_, rfl⟩
  have hhat : .text "hat" ∉ Field.slugsOf tour.fields := by
    simp [tour, Field.slugsOf, Field.slugs, Attributes.ofRules]
  obtain ⟨report, e', hrun, _, htimes, _⟩ :=
    check_unexpected .newYear tour [hat] hfull hf ha hu (.start [])
  obtain ⟨hcount, hinvalid⟩ := htimes "hat" hhat
  exact ⟨report, e', hrun, hcount, hinvalid (by simp [hat])⟩

end Level

end Intake
