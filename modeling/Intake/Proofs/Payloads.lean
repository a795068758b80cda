import Intake.Proofs.Schemas

/-! Submissions as they are handed in. The check of the shape lets in exactly the lists of items,
also written as JSON, while reading takes the list itself: one answer for each item, in order. -/

namespace Intake

namespace Answer

theorem valueIn_eq (es : List (Value × Value)) :
    valueIn es = readValue (Value.fieldD "value" es) := by
  induction es with
  | nil => rfl
  | cons e es ih =>
    obtain ⟨k, v⟩ := e
    unfold Value.fieldD at ih ⊢
    rw [valueIn, Value.field?_cons, ih]
    cases Value.equal (.text "value") k <;> rfl

@[simp] theorem ofItems_list (xs : List Value) : ofItems (.list xs) = xs.mapM ofValue := by
  cases xs <;> rfl

/-- An answer is what an item is read to: its slug is a text that is not empty, and its value is the
one of the item, read. -/
def IsOfItem (x : Value) (a : Answer) : Prop :=
  ∃ es s, x = .map es ∧ Value.field? "slug" es = some (.text s) ∧ s ≠ "" ∧
    a = ⟨.text s, readValue (Value.fieldD "value" es)⟩

end Answer

namespace Submission
open Answer

@[simp] theorem itemIssues_eq_nil_iff {position : Nat} {x : Value} :
    itemIssues position x = [] ↔ isAnswerShape x = true :=
  (Schema.issues_eq_nil_iff _ _ x).trans (tellsShapes_schema.isAnswerShape_iff x).symm

theorem issues_eq_nil_iff {v : Value} :
    issues v = [] ↔ ∃ xs, v = .list xs ∧ ∀ x ∈ xs, isAnswerShape x = true := by
  have hsorted : issues v = [] ↔ submissionSchema.issues "" v = [] := by
    unfold issues
    rw [← List.length_eq_zero_iff, List.length_mergeSort, List.length_eq_zero_iff]
  rw [hsorted, Schema.issues_eq_nil_iff, submissionSchema, Schema.accepts_listOf_iff]
  simp only [tellsShapes_schema.isAnswerShape_iff]

theorem shapeFailures_eq_nil_iff {v : Value} : shapeFailures v false = [] ↔
    ∃ xs, decode v = .ok (.list xs) ∧ ∀ x ∈ xs, isAnswerShape x = true := by
  have hmatters : (false && !v.truthy) = false := rfl
  unfold shapeFailures
  rw [hmatters, if_neg Bool.false_ne_true]
  cases decode v with
  | error f =>
    refine iff_of_false (List.cons_ne_nil _ _) ?_
    rintro ⟨_, h, _⟩
    cases h
  | ok w =>
    simp only [List.map_eq_nil_iff, issues_eq_nil_iff, Except.ok.injEq]

def isShaped (v : Value) : Bool := v.isList && v.elements?.any (·.all isAnswerShape)

theorem shapeFailures_eq_nil_of_isShaped {v : Value}
    (h : (decode v).toOption.any isShaped = true) : shapeFailures v false = [] := by
  rw [shapeFailures_eq_nil_iff]
  cases hdecode : decode v with
  | error f =>
    rw [hdecode] at h
    cases h
  | ok w =>
    have hshaped : isShaped w = true := by
      rw [hdecode] at h
      exact h
    cases w with
    | list xs => exact ⟨xs, rfl, List.all_eq_true.1 hshaped⟩
    | _ => cases hshaped

theorem ofList_of_accepted {v : Value} (h : shapeFailures v false = []) :
    ofList v = Answer.ofItems v := by
  unfold ofList
  rw [h]
  rfl

theorem exists_ofValue {x : Value} (h : isAnswerShape x = true) :
    ∃ a, Answer.ofValue x = .ok a ∧ IsOfItem x a := by
  cases x with
  | map es =>
    rw [isAnswerShape, Bool.and_eq_true, namesSlug_iff] at h
    obtain ⟨⟨s, hs, hne⟩, _⟩ := h
    refine ⟨_, rfl, es, s, rfl, hs, hne, ?_⟩
    rw [valueIn_eq, Value.fieldD, hs]
    rfl
  | _ => cases h

theorem exists_ofItems {xs : List Value} (h : ∀ x ∈ xs, isAnswerShape x = true) :
    ∃ answers, Answer.ofItems (.list xs) = .ok answers ∧ List.Forall₂ IsOfItem xs answers := by
  rw [ofItems_list]
  induction xs with
  | nil => exact ⟨[], rfl, .nil⟩
  | cons x xs ih =>
    rw [List.forall_mem_cons] at h
    obtain ⟨a, ha, hitem⟩ := exists_ofValue h.1
    obtain ⟨answers, hanswers, hitems⟩ := ih h.2
    refine ⟨a :: answers, ?_, .cons hitem hitems⟩
    rw [List.mapM_cons, ha, hanswers]
    rfl

theorem ofItems_encoded {v : Value} {xs : List Value} (hdecode : decode v = .ok (.list xs))
    (hencoded : v ≠ .list xs) :
    ∃ x rest, v.items = .ok (x :: rest) ∧ Answer.ofItems v = .error (.submission (.answer x)) := by
  cases v with
  | text s =>
    cases hs : s.toList with
    -- nothing is no JSON
    | nil =>
      rw [decode, hs] at hdecode
      cases hdecode
    | cons c cs =>
      have htruthy : (Value.text s).truthy = true := by
        refine bne_iff_ne.2 ?_
        rintro rfl
        cases hs
      have hitems : (Value.text s).items =
          .ok (.text c.toString :: cs.map fun c => .text c.toString) := by
        rw [Value.items, hs]
        rfl
      refine ⟨_, _, hitems, ?_⟩
      unfold Answer.ofItems
      rw [if_pos htruthy, hitems]
      rfl
  | bytes bs =>
    cases bs with
    | nil => cases hdecode
    | cons b bs => exact ⟨_, _, rfl, rfl⟩
  | _ => exact absurd (Except.ok.inj hdecode) hencoded

theorem eq_list_of_ofItems {v : Value} {xs : List Value} {answers : List Answer}
    (hdecode : decode v = .ok (.list xs)) (h : Answer.ofItems v = .ok answers) : v = .list xs := by
  by_contra hencoded
  obtain ⟨x, rest, _, herror⟩ := ofItems_encoded hdecode hencoded
  rw [herror] at h
  cases h

/-- A payload whose shape is right is, or is JSON for, a list of items. It is read exactly where it
is the list itself, also under the key `input`, and to one answer for each item in order. Of JSON
for the list reading refuses the first character or byte. -/
theorem ofDocument_of_accepted {v : Value} (h : shapeFailures v false = []) :
    ∃ xs, decode v = .ok (.list xs) ∧
      (∀ es, Value.field? "input" es = some v → ofDocument (.map es) = ofDocument v) ∧
      ((∃ answers, ofDocument v = .ok answers) ↔ v = .list xs) ∧
      (∀ answers, ofDocument v = .ok answers → List.Forall₂ IsOfItem xs answers) ∧
      (v ≠ .list xs → ∃ x rest, v.items = .ok (x :: rest) ∧
        ofDocument v = .error (.submission (.answer x))) := by
  obtain ⟨xs, hdecode, hshapes⟩ := shapeFailures_eq_nil_iff.1 h
  have hlist : ofDocument v = ofList v := by
    cases v with
    | map es => cases Except.ok.inj hdecode
    | _ => rfl
  have hitems : ofDocument v = Answer.ofItems v := hlist.trans (ofList_of_accepted h)
  obtain ⟨answers, hanswers, hall⟩ := exists_ofItems hshapes
  refine ⟨xs, hdecode, fun es hes => ?_, ?_, fun answers' h' => ?_, fun hencoded => ?_⟩
  · rw [hlist, ofDocument, hes]
  · rw [hitems]
    constructor
    · rintro ⟨answers', h'⟩
      exact eq_list_of_ofItems hdecode h'
    · rintro rfl
      exact ⟨answers, hanswers⟩
  · rw [hitems] at h'
    obtain rfl := eq_list_of_ofItems hdecode h'
    rw [hanswers] at h'
    obtain rfl := Except.ok.inj h'
    exact hall
  · rw [hitems]
    exact ofItems_encoded hdecode hencoded

def lonelyItem : Value := .map [(.text "slug", .text "a"), (.text "value", .int 1)]

def lonelyJson : Value := .text "[\x7b\"slug\": \"a\", \"value\": 1\x7d]"

/-- The list is read, and its JSON is refused although its shape is right. -/
theorem ofDocument_of_accepted_lonely :
    shapeFailures (.list [lonelyItem]) false = [] ∧ shapeFailures lonelyJson false = [] ∧
      (decode lonelyJson).toOption.map (Value.equal (.list [lonelyItem])) = some true ∧
      (∃ answers, ofDocument (.list [lonelyItem]) = .ok answers ∧
        List.Forall₂ IsOfItem [lonelyItem] answers) ∧
      ofDocument (.map [(.text "input", lonelyJson)]) = ofDocument lonelyJson ∧
      ¬ ∃ answers, ofDocument lonelyJson = .ok answers := by
  have hlist : shapeFailures (.list [lonelyItem]) false = [] :=
    shapeFailures_eq_nil_iff.2 ⟨[lonelyItem], rfl, List.forall_mem_singleton.2 (by decide)⟩
  have hjson : shapeFailures lonelyJson false = [] :=
    shapeFailures_eq_nil_of_isShaped (by decide +kernel)
  obtain ⟨xs, hxs, _, hread, hitems, _⟩ := ofDocument_of_accepted hlist
  have heq : Value.list [lonelyItem] = .list xs := Except.ok.inj hxs
  obtain ⟨answers, hanswers⟩ := hread.2 heq
  obtain ⟨ys, _, hinput, hrefused, _⟩ := ofDocument_of_accepted hjson
  refine ⟨hlist, hjson, by decide +kernel, ⟨answers, hanswers, ?_⟩, hinput _ rfl, fun h => ?_⟩
  · rw [Value.list.inj heq]
    exact hitems answers hanswers
  · have hjsonList : Value.text _ = .list ys := hrefused.1 h
    cases hjsonList

end Submission

end Intake
