import Intake.Proofs.Payloads

/-! Two spellings of a submission: an object keyed by slug, and the list of items with its slugs and
values, where a nested object is a list of items again. Nested objects are read as answers in both.
A list among the values is left as it is in the object, while as the value of an item it is read as
answers itself where its elements are maps with a slug. -/

namespace Intake.Submission
open Answer

def item (slug value : Value) : Value := .map [(.text "slug", slug), (.text "value", value)]

mutual

/-- The items that spell an object. -/
def itemsOf : List (Value × Value) → List Value
  | [] => []
  | (k, v) :: es => item k (itemValue v) :: itemsOf es
termination_by structural es => es

def itemValue : Value → Value
  | .map es => .list (itemsOf es)
  | v => v
termination_by structural v => v

end

mutual

def readAnswersOf : List (Value × Value) → List Value
  | [] => []
  | (k, v) :: es => .answer k (readAnswerValue v) :: readAnswersOf es
termination_by structural es => es

def readAnswerValue : Value → Value
  | .map es => .list (readAnswersOf es)
  | v => readValue v
termination_by structural v => v

end

inductive Holds : Value → List Value → Prop
  | here (xs : List Value) : Holds (.list xs) xs
  | under {es : List (Value × Value)} {e : Value × Value} {xs : List Value} (he : e ∈ es)
      (h : Holds e.2 xs) : Holds (.map es) xs

@[simp] theorem holds_list_iff {xs ys : List Value} : Holds (.list xs) ys ↔ ys = xs := by
  constructor
  · rintro ⟨⟩
    rfl
  · rintro rfl
    exact .here ys

theorem holds_map_iff {es : List (Value × Value)} {xs : List Value} :
    Holds (.map es) xs ↔ ∃ e ∈ es, Holds e.2 xs := by
  constructor
  · rintro (_ | ⟨he, h⟩)
    exact ⟨_, he, h⟩
  · rintro ⟨e, he, h⟩
    exact .under he h

theorem not_holds_text (s : String) (xs : List Value) : ¬ Holds (.text s) xs := nofun

/-- A list that is read as answers: it is not empty, and all its elements are maps with a slug. -/
def IsItems (xs : List Value) : Prop :=
  xs ≠ [] ∧ ∀ x ∈ xs, ∃ es, x = .map es ∧ namesSlug es = true

@[simp] theorem field?_slug_item (slug value : Value) :
    Value.field? "slug" [(.text "slug", slug), (.text "value", value)] = some slug :=
  Value.field?_cons_self _ _ _

@[simp] theorem field?_value_item (slug value : Value) :
    Value.field? "value" [(.text "slug", slug), (.text "value", value)] = some value := by
  rw [Value.field?_cons_of_ne (by decide), Value.field?_cons_self]

theorem isAnswerShape_item {slug value : Value} : isAnswerShape (item slug value) = true ↔
    (∃ s, slug = .text s ∧ s ≠ "") ∧ isValueShape value = true := by
  rw [item, isAnswerShape, Bool.and_eq_true, namesSlug_iff, hasValueShape_eq, field?_slug_item,
    field?_value_item]
  simp only [Option.some.injEq, Option.all_some]

@[simp] theorem ofValue_item (slug value : Value) :
    Answer.ofValue (item slug value) = .ok ⟨slug, readValue value⟩ := by
  rw [item, Answer.ofValue, valueIn_eq, Value.fieldD, field?_slug_item, Value.fieldD,
    field?_value_item]
  rfl

theorem readElement_eq {x : Value} {a : Answer} (h : Answer.ofValue x = .ok a) :
    readElement x = a.toValue := by
  cases x with
  | map es | answer slug value =>
    obtain rfl := Except.ok.inj h
    rfl
  | _ => cases h

theorem itemsOf_eq (es : List (Value × Value)) :
    itemsOf es = es.map fun e => item e.1 (itemValue e.2) := by
  induction es with
  | nil => rfl
  | cons e es ih => rw [itemsOf, ih, List.map_cons]

theorem mapM_itemsOf (es : List (Value × Value)) : (itemsOf es).mapM Answer.ofValue =
    .ok (es.map fun e => ⟨e.1, readValue (itemValue e.2)⟩) := by
  induction es with
  | nil => rfl
  | cons e es ih =>
    rw [itemsOf, List.mapM_cons, ofValue_item, ih]
    rfl

theorem mem_itemsOf_iff {es : List (Value × Value)} {x : Value} :
    x ∈ itemsOf es ↔ ∃ e ∈ es, item e.1 (itemValue e.2) = x := by
  rw [itemsOf_eq, List.mem_map]

theorem itemsOf_shapes {es : List (Value × Value)} (h : areElementShapes (itemsOf es) = true) :
    ∀ x ∈ itemsOf es, isAnswerShape x = true := by
  intro x hx
  obtain ⟨e, _, rfl⟩ := mem_itemsOf_iff.1 hx
  rcases areElementShapes_iff.1 h _ hx with hscalar | hshape
  · cases hscalar
  · exact hshape

theorem isItems_iff {xs : List Value} (h : areElementShapes xs = true) :
    (!xs.isEmpty && xs.all looksLikeAnswer) = true ↔ IsItems xs := by
  rw [areElementShapes_iff] at h
  have hlooks : ∀ x ∈ xs, looksLikeAnswer x = true ↔ ∃ es, x = .map es ∧ namesSlug es = true := by
    intro x hx
    cases x with
    | map es =>
      have hshape : isAnswerShape (.map es) = true := (h _ hx).resolve_left Bool.false_ne_true
      rw [isAnswerShape, Bool.and_eq_true] at hshape
      obtain ⟨s, hs, hne⟩ := namesSlug_iff.1 hshape.1
      refine iff_of_true ?_ ⟨es, rfl, hshape.1⟩
      rw [looksLikeAnswer, Value.fieldD, hs]
      exact bne_iff_ne.2 hne
    | answer slug value => rcases h _ hx with hno | hno <;> cases hno
    | _ =>
      refine iff_of_false Bool.false_ne_true ?_
      rintro ⟨_, heq, _⟩
      cases heq
  rw [Bool.and_eq_true, List.all_eq_true, IsItems, forall₂_congr hlooks]
  cases xs <;> simp

theorem readValue_list_of_isItems {xs : List Value} (h : areElementShapes xs = true)
    (hitems : IsItems xs) : readValue (.list xs) = .list (readAll xs) := by
  rw [readValue, if_pos ((isItems_iff h).2 hitems)]

theorem readValue_list_eq_iff {xs : List Value} (h : areElementShapes xs = true) :
    readValue (.list xs) = .list xs ↔ ¬ IsItems xs := by
  constructor
  · rintro heq hitems
    rw [readValue_list_of_isItems h hitems] at heq
    obtain ⟨hne, hmaps⟩ := hitems
    cases xs with
    | nil => exact hne rfl
    | cons x xs =>
      obtain ⟨es, rfl, _⟩ := hmaps x List.mem_cons_self
      cases Value.list.inj heq
  · intro hitems
    rw [readValue, if_neg (mt (isItems_iff h).1 hitems)]

mutual

theorem readValue_itemValue (v : Value) (h : isValueShape (itemValue v) = true) :
    readValue (itemValue v) = readAnswerValue v := by
  match v with
  | .map es =>
    have hshapes := itemsOf_shapes h
    have hread := readAll_itemsOf es hshapes
    cases es with
    | nil => rfl
    | cons e es =>
      -- every item names a slug, so that the list is read as answers and not left as it is
      have hitems : IsItems (itemsOf (e :: es)) := by
        refine ⟨List.cons_ne_nil _ _, fun x hx => ?_⟩
        have hshape := hshapes x hx
        obtain ⟨e', _, rfl⟩ := mem_itemsOf_iff.1 hx
        rw [item, isAnswerShape, Bool.and_eq_true] at hshape
        exact ⟨_, rfl, hshape.1⟩
      rw [itemValue, readValue_list_of_isItems h hitems, hread, readAnswerValue]
  | .null | .bool _ | .int _ | .float _ | .text _ | .bytes _ | .date _ | .moment _ | .set _
  | .list _ | .tuple _ | .answer .. | .upload .. => rfl
termination_by structural v

theorem readAll_itemsOf (es : List (Value × Value))
    (h : ∀ x ∈ itemsOf es, isAnswerShape x = true) : readAll (itemsOf es) = readAnswersOf es := by
  match es with
  | [] => rfl
  | (k, v) :: es =>
    rw [itemsOf, List.forall_mem_cons, isAnswerShape_item] at h
    obtain ⟨⟨_, hvalue⟩, hrest⟩ := h
    rw [itemsOf, readAll, readElement_eq (ofValue_item k _), readValue_itemValue v hvalue,
      readAll_itemsOf es hrest]
    rfl
termination_by structural es

end

mutual

/-- Reading the lists changes an object's answers exactly where one of them is read as answers. -/
theorem readAnswerValue_eq_iff (v : Value) (h : isValueShape (itemValue v) = true) :
    readAnswerValue v = answerValue v ↔ ∀ xs, Holds v xs → ¬ IsItems xs := by
  match v with
  | .map es =>
    rw [readAnswerValue, answerValue, Value.list.injEq, readAnswersOf_eq_iff es (itemsOf_shapes h)]
    simp only [holds_map_iff]
    constructor
    · rintro hall xs ⟨e, he, hxs⟩
      exact hall e he xs hxs
    · exact fun hall e he xs hxs => hall xs ⟨e, he, hxs⟩
  | .list xs =>
    simp only [holds_list_iff, forall_eq]
    exact readValue_list_eq_iff h
  | .null | .bool _ | .int _ | .float _ | .text _ | .bytes _ | .date _ | .moment _ | .set _
  | .tuple _ | .answer .. | .upload .. => exact iff_of_true rfl nofun
termination_by structural v

theorem readAnswersOf_eq_iff (es : List (Value × Value))
    (h : ∀ x ∈ itemsOf es, isAnswerShape x = true) :
    readAnswersOf es = answersOf es ↔ ∀ e ∈ es, ∀ xs, Holds e.2 xs → ¬ IsItems xs := by
  match es with
  | [] => exact iff_of_true rfl nofun
  | (k, v) :: es =>
    rw [itemsOf, List.forall_mem_cons, isAnswerShape_item] at h
    obtain ⟨⟨_, hvalue⟩, hrest⟩ := h
    rw [readAnswersOf, answersOf, List.cons.injEq, Value.answer.injEq, List.forall_mem_cons,
      readAnswerValue_eq_iff v hvalue, readAnswersOf_eq_iff es hrest]
    exact and_congr_left' (and_iff_right rfl)
termination_by structural es

end

/-- An object without the key `input` is read, and so is the list of its items where the shape of
the list is right. Nested objects are answers in both. The two are the same answers exactly where no
list that stands in the object, at any depth, consists of maps with a slug: in the list of items
such a list is read as answers too, while in the object it stays as it is. -/
theorem ofDocument_itemsOf {es : List (Value × Value)} (hinput : Value.field? "input" es = none)
    (haccepted : shapeFailures (.list (itemsOf es)) false = []) :
    ofDocument (.map es) = .ok (es.map fun e => ⟨e.1, answerValue e.2⟩) ∧
      ofDocument (.list (itemsOf es)) = .ok (es.map fun e => ⟨e.1, readAnswerValue e.2⟩) ∧
      (ofDocument (.map es) = ofDocument (.list (itemsOf es)) ↔
        ∀ xs, Holds (.map es) xs → ¬ IsItems xs) := by
  obtain ⟨xs, hxs, hshapes⟩ := shapeFailures_eq_nil_iff.1 haccepted
  obtain rfl := Value.list.inj (Except.ok.inj hxs)
  have hvalue : ∀ e ∈ es, isValueShape (itemValue e.2) = true :=
    fun e he => (isAnswerShape_item.1 (hshapes _ (mem_itemsOf_iff.2 ⟨e, he, rfl⟩))).2
  have hobject : ofDocument (.map es) = .ok (es.map fun e => ⟨e.1, answerValue e.2⟩) := by
    simp only [ofDocument, hinput]
    rfl
  have hlist : ofDocument (.list (itemsOf es)) =
      .ok (es.map fun e => ⟨e.1, readAnswerValue e.2⟩) := by
    have hread : ofDocument (.list (itemsOf es)) = Answer.ofItems (.list (itemsOf es)) :=
      ofList_of_accepted haccepted
    rw [hread, ofItems_list, mapM_itemsOf]
    refine congrArg Except.ok (List.map_congr_left fun e he => ?_)
    rw [readValue_itemValue e.2 (hvalue e he)]
  refine ⟨hobject, hlist, ?_⟩
  rw [hobject, hlist, Except.ok.injEq, List.map_inj_left]
  simp only [Answer.mk.injEq, true_and, holds_map_iff]
  constructor
  · rintro heq xs ⟨e, he, hxs⟩
    exact (readAnswerValue_eq_iff e.2 (hvalue e he)).1 (heq e he).symm xs hxs
  · intro hnone e he
    exact ((readAnswerValue_eq_iff e.2 (hvalue e he)).2 fun xs hxs => hnone xs ⟨e, he, hxs⟩).symm

def taggedGuest : List (Value × Value) :=
  [(.text "guest", .map [(.text "name", .text "Ann"), (.text "tags", .list [.text "a", .int 1])])]

theorem ofDocument_itemsOf_guest :
    Value.field? "input" taggedGuest = none ∧
      shapeFailures (.list (itemsOf taggedGuest)) false = [] ∧
      ofDocument (.map taggedGuest) = ofDocument (.list (itemsOf taggedGuest)) ∧
      ofDocument (.map taggedGuest) =
        .ok [⟨.text "guest", .list [.answer (.text "name") (.text "Ann"),
        .answer (.text "tags") (.list [.text "a", .int 1])]⟩] := by
  have hinput : Value.field? "input" taggedGuest = none := by rfl
  have hshapes : ∀ x ∈ itemsOf taggedGuest, isAnswerShape x = true :=
    List.forall_mem_singleton.2 (by decide)
  have haccepted : shapeFailures (.list (itemsOf taggedGuest)) false = [] :=
    shapeFailures_eq_nil_iff.2 ⟨_, rfl, hshapes⟩
  obtain ⟨hobject, _, hsame⟩ := ofDocument_itemsOf hinput haccepted
  refine ⟨hinput, haccepted, hsame.2 fun xs hxs hitems => ?_, hobject⟩
  have htags : xs = [.text "a", .int 1] := by
    simpa only [taggedGuest, holds_map_iff, holds_list_iff, not_holds_text, List.mem_cons,
      List.not_mem_nil, or_false, exists_eq_left, exists_eq_or_imp, false_or] using hxs
  subst htags
  obtain ⟨es, heq, _⟩ := hitems.2 _ List.mem_cons_self
  cases heq

def listedGuests : List (Value × Value) :=
  [(.text "guests", .list [.map [(.text "slug", .text "ann"), (.text "value", .int 1)]])]

/-- The shape of the list of items is right, but what is a list of maps in the object is an answer
in the list of items. -/
theorem ofDocument_ne_itemsOf :
    Value.field? "input" listedGuests = none ∧
      shapeFailures (.list (itemsOf listedGuests)) false = [] ∧
      ofDocument (.map listedGuests) = .ok [⟨.text "guests",
        .list [.map [(.text "slug", .text "ann"), (.text "value", .int 1)]]⟩] ∧
      ofDocument (.list (itemsOf listedGuests)) = .ok [⟨.text "guests",
        .list [.answer (.text "ann") (.int 1)]⟩] ∧
      ofDocument (.map listedGuests) ≠ ofDocument (.list (itemsOf listedGuests)) := by
  have hshapes : ∀ x ∈ itemsOf listedGuests, isAnswerShape x = true :=
    List.forall_mem_singleton.2 (by decide)
  have haccepted : shapeFailures (.list (itemsOf listedGuests)) false = [] :=
    shapeFailures_eq_nil_iff.2 ⟨_, rfl, hshapes⟩
  have hobject : ofDocument (.map listedGuests) = .ok [⟨.text "guests",
      .list [.map [(.text "slug", .text "ann"), (.text "value", .int 1)]]⟩] := by rfl
  have hlist : ofDocument (.list (itemsOf listedGuests)) = .ok [⟨.text "guests",
      .list [.answer (.text "ann") (.int 1)]⟩] := by
    have hread := ofList_of_accepted haccepted
    exact hread.trans rfl
  refine ⟨rfl, haccepted, hobject, hlist, ?_⟩
  rw [hobject, hlist]
  simp

end Intake.Submission
