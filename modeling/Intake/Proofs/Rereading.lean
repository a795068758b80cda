import Intake.Proofs.Contents
import Intake.Proofs.Levels
import Intake.Proofs.Spellings

/-! Answers that have been read, written as documents and read again. What is read as answers are
maps that name a slug, in a list that is not empty; what is written as such are answers that have
been read from these, and answers come back from their documents at the same places. -/

namespace Intake

namespace Value

def Unread (v : Value) : Prop := v.Every fun x => x.isAnswer = false

theorem unread_null : Unread .null := (every_iff_of_alone rfl rfl).2 rfl

theorem unread_text (s : String) : Unread (.text s) := (every_iff_of_alone rfl rfl).2 rfl

@[simp] theorem unread_list_iff {xs : List Value} : Unread (.list xs) ↔ ∀ x ∈ xs, x.Unread :=
  every_list_iff.trans (and_iff_right rfl)

@[simp]
theorem unread_map_iff {es : List (Value × Value)} : Unread (.map es) ↔ ∀ e ∈ es, e.2.Unread :=
  every_map_iff.trans (and_iff_right rfl)

theorem Unread.isAnswer {v : Value} (h : v.Unread) : v.isAnswer = false := h.here

theorem Unread.fieldD {es : List (Value × Value)} (h : Unread (.map es)) (name : String) :
    (Value.fieldD name es).Unread :=
  Every.fieldD (p := fun x => x.isAnswer = false) rfl h name

end Value

namespace Answer
open Value Submission

theorem unread_item {slug value : Value} (hslug : slug.Unread) (hvalue : value.Unread) :
    (item slug value).Unread :=
  unread_map_iff.2 (List.forall_mem_cons.2 ⟨hslug, List.forall_mem_singleton.2 hvalue⟩)

theorem exists_map_of_looksLikeAnswer {x : Value} (h : x.Unread) (hx : looksLikeAnswer x = true) :
    ∃ es, x = .map es ∧ (Value.fieldD "slug" es).truthy = true := by
  cases x with
  | map es => exact ⟨es, rfl, hx⟩
  | answer slug value => cases h.isAnswer
  | _ => cases hx

@[simp] theorem writeElement_answer (slug value : Value) :
    writeElement (.answer slug value) = item slug (writeValue value) := rfl

@[simp] theorem readElement_item (slug value : Value) :
    readElement (item slug value) = .answer slug (readValue value) :=
  readElement_eq (ofValue_item slug value)

/-- The elements that are read as answers are answers afterwards, and they look like answers when
they have been written again. -/
theorem readAll_shapes {xs : List Value} (h : ∀ x ∈ xs, x.Unread)
    (hxs : ∀ x ∈ xs, looksLikeAnswer x = true) :
    (readAll xs).all Value.isAnswer = true ∧
      (writeAll (readAll xs)).all looksLikeAnswer = true := by
  induction xs with
  | nil => exact ⟨rfl, rfl⟩
  | cons x xs ih =>
    rw [List.forall_mem_cons] at h hxs
    obtain ⟨es, rfl, hslug⟩ := exists_map_of_looksLikeAnswer h.1 hxs.1
    obtain ⟨hanswers, hlooks⟩ := ih h.2 hxs.2
    have hlook : looksLikeAnswer (item (Value.fieldD "slug" es) (writeValue (valueIn es))) =
      true := by
      rw [item, looksLikeAnswer, Value.fieldD, field?_slug_item]
      exact hslug
    rw [readAll, readElement, writeAll, writeElement_answer, List.all_cons, List.all_cons, hanswers,
      hlooks, hlook]
    exact ⟨rfl, rfl⟩

theorem readValue_list_cases {xs : List Value} (h : ∀ x ∈ xs, x.Unread) :
    (xs ≠ [] ∧ (∀ x ∈ xs, looksLikeAnswer x = true) ∧
      readValue (.list xs) = .list (readAll xs)) ∨
    (¬ (xs ≠ [] ∧ ∀ x ∈ xs, looksLikeAnswer x = true) ∧ readValue (.list xs) = .list xs ∧
      (xs.all Value.isAnswer = true → xs = [])) := by
  by_cases hxs : xs ≠ [] ∧ ∀ x ∈ xs, looksLikeAnswer x = true
  · refine .inl ⟨hxs.1, hxs.2, if_pos ?_⟩
    simpa using hxs
  · refine .inr ⟨hxs, if_neg (by simpa using hxs), fun hall => ?_⟩
    cases xs with
    | nil => rfl
    | cons x xs =>
      have hanswer := List.all_eq_true.1 hall x List.mem_cons_self
      rw [(h x List.mem_cons_self).isAnswer] at hanswer
      cases hanswer

mutual

theorem readValue_writeValue (v : Value) (h : v.Unread) :
    (writeValue (readValue v)).Unread ∧ readValue (writeValue (readValue v)) = readValue v := by
  match v with
  | .list xs =>
    rcases readValue_list_cases (unread_list_iff.1 h) with ⟨hne, hxs, hread⟩ | ⟨_, hread, hanswers⟩
    · obtain ⟨hall, hlooks⟩ := readAll_shapes (unread_list_iff.1 h) hxs
      obtain ⟨hunread, hagain⟩ := readAll_writeAll xs (unread_list_iff.1 h) hxs
      have hne' : (writeAll (readAll xs)).isEmpty = false := by
        cases xs with
        | nil => exact absurd rfl hne
        | cons x xs => rfl
      rw [hread, writeValue, if_pos hall, readValue, hlooks, hne', hagain]
      exact ⟨unread_list_iff.2 hunread, rfl⟩
    · have hwritten : writeValue (.list xs) = .list xs := by
        rw [writeValue]
        split
        · rename_i hall
          rw [hanswers hall]
          rfl
        · rfl
      rw [hread, hwritten]
      exact ⟨h, hread⟩
  | .map es => exact ⟨h, rfl⟩
  | .null | .bool _ | .int _ | .float _ | .text _ | .bytes _ | .date _ | .moment _ | .set _
  | .tuple _ | .answer .. | .upload .. => exact ⟨h, rfl⟩
termination_by structural v

theorem readAll_writeAll (xs : List Value) (h : ∀ x ∈ xs, x.Unread)
    (hxs : ∀ x ∈ xs, looksLikeAnswer x = true) :
    (∀ x ∈ writeAll (readAll xs), x.Unread) ∧ readAll (writeAll (readAll xs)) = readAll xs := by
  match xs with
  | [] => exact ⟨nofun, rfl⟩
  | x :: xs =>
    rw [List.forall_mem_cons] at h hxs
    obtain ⟨hfirst, hfirst'⟩ := readElement_writeElement x h.1
    obtain ⟨hrest, hrest'⟩ := readAll_writeAll xs h.2 hxs.2
    rw [readAll, writeAll, readAll, hfirst', hrest']
    exact ⟨List.forall_mem_cons.2 ⟨hfirst, hrest⟩, rfl⟩
termination_by structural xs

theorem readElement_writeElement (x : Value) (h : x.Unread) :
    (writeElement (readElement x)).Unread ∧
      readElement (writeElement (readElement x)) = readElement x := by
  match x with
  | .map es =>
    obtain ⟨hunread, hagain⟩ := readValue_valueIn es (unread_map_iff.1 h)
    rw [readElement, writeElement_answer, readElement_item, hagain]
    exact ⟨unread_item (h.fieldD "slug") hunread, rfl⟩
  | .answer slug value => cases h.isAnswer
  | .null | .bool _ | .int _ | .float _ | .text _ | .bytes _ | .date _ | .moment _ | .set _
  | .tuple _ | .list _ | .upload .. => exact ⟨h, rfl⟩
termination_by structural x

theorem readValue_valueIn (es : List (Value × Value)) (h : ∀ e ∈ es, e.2.Unread) :
    (writeValue (valueIn es)).Unread ∧ readValue (writeValue (valueIn es)) = valueIn es := by
  match es with
  | [] => exact ⟨unread_null, rfl⟩
  | (k, v) :: es =>
    rw [List.forall_mem_cons] at h
    rw [valueIn]
    split
    · exact readValue_writeValue v h.1
    · exact readValue_valueIn es h.2
termination_by structural es

end

/-- A list that is read as answers stands in the value of an answer's document, which it is itself
or where it is in the document of an answer among these; a path has their indices. -/
inductive DocumentsAt : Value → List Nat → Prop
  | here {xs : List Value} (hne : xs ≠ []) (h : ∀ x ∈ xs, looksLikeAnswer x = true) :
      DocumentsAt (.list xs) []
  | inside {xs : List Value} {i : Nat} {es : List (Value × Value)} {path : List Nat}
      (h : ∀ x ∈ xs, looksLikeAnswer x = true) (hi : xs[i]? = some (.map es))
      (hpath : DocumentsAt (Value.fieldD "value" es) path) : DocumentsAt (.list xs) (i :: path)

/-- A group of answers, of which there are some, stands in the value of an answer at a path. -/
inductive GroupAt : Value → List Nat → Prop
  | here {v : Value} {inner : List Answer} (h : group? v = some inner) (hne : inner ≠ []) :
      GroupAt v []
  | inside {v : Value} {inner : List Answer} {i : Nat} {a : Answer} {path : List Nat}
      (h : group? v = some inner) (hi : inner[i]? = some a) (hpath : GroupAt a.value path) :
      GroupAt v (i :: path)

def ofMap (es : List (Value × Value)) : Answer :=
  ⟨Value.fieldD "slug" es, readValue (Value.fieldD "value" es)⟩

@[simp] theorem readElement_map (es : List (Value × Value)) :
    readElement (.map es) = (ofMap es).toValue := by
  rw [readElement, valueIn_eq]
  rfl

theorem group?_readAll {xs : List Value} (h : ∀ x ∈ xs, x.Unread)
    (hxs : ∀ x ∈ xs, looksLikeAnswer x = true) :
    ∃ maps : List (List (Value × Value)), xs = maps.map .map ∧
      group? (.list (readAll xs)) = some (maps.map ofMap) := by
  induction xs with
  | nil => exact ⟨[], rfl, rfl⟩
  | cons x xs ih =>
    rw [List.forall_mem_cons] at h hxs
    obtain ⟨es, rfl, _⟩ := exists_map_of_looksLikeAnswer h.1 hxs.1
    obtain ⟨maps, rfl, hgroup⟩ := ih h.2 hxs.2
    have hrest : readAll (maps.map .map) = (maps.map ofMap).map toValue :=
      Value.list.inj (group?_eq_some_iff.1 hgroup)
    refine ⟨es :: maps, rfl, group?_eq_some_iff.2 ?_⟩
    rw [readAll, readElement_map, hrest]
    rfl

theorem documentsAt_iff_of_plain {v w : Value}
    (hgroup : ∀ inner, group? w = some inner → inner = [])
    (hv : ∀ xs, v = .list xs → ¬ (xs ≠ [] ∧ ∀ x ∈ xs, looksLikeAnswer x = true)) (path : List Nat) :
    DocumentsAt v path ↔ GroupAt w path := by
  constructor
  · intro hdoc
    cases hdoc with
    | here hne hxs => exact (hv _ rfl ⟨hne, hxs⟩).elim
    | inside hxs hi _ =>
      have hne := List.ne_nil_of_mem (List.mem_of_getElem? hi)
      exact (hv _ rfl ⟨hne, hxs⟩).elim
  · intro h
    cases h with
    | here hinner hne => exact (hne (hgroup _ hinner)).elim
    | inside hinner hi _ =>
      rw [hgroup _ hinner] at hi
      cases hi

/-- Groups of answers stand where lists are read as answers. -/
theorem documentsAt_iff {v : Value} (h : v.Unread) (path : List Nat) :
    DocumentsAt v path ↔ GroupAt (readValue v) path := by
  cases v with
  | list xs =>
    rcases readValue_list_cases (unread_list_iff.1 h)
      with ⟨hne, hxs, hread⟩ | ⟨hno, hread, hanswers⟩
    · obtain ⟨maps, rfl, hgroup⟩ := group?_readAll (unread_list_iff.1 h) hxs
      rw [← hread] at hgroup
      cases path with
      | nil =>
        have hne' : maps.map ofMap ≠ [] := by
          simpa using hne
        exact ⟨fun _ => .here hgroup hne', fun _ => .here hne hxs⟩
      | cons i path =>
        have hinner : ∀ es, maps[i]? = some es → (DocumentsAt (Value.fieldD "value" es) path ↔
            GroupAt (ofMap es).value path) := by
          intro es hes
          have hmem := List.mem_map_of_mem (f := Value.map) (List.mem_of_getElem? hes)
          exact documentsAt_iff ((unread_list_iff.1 h _ hmem).fieldD "value") path
        constructor
        · intro hdoc
          cases hdoc with
          | inside _ hi hpath =>
            rw [List.getElem?_map, Option.map_eq_some_iff] at hi
            obtain ⟨es, hes, heq⟩ := hi
            obtain rfl := Value.map.inj heq
            exact .inside hgroup (by rw [List.getElem?_map, hes]; rfl) ((hinner es hes).1 hpath)
        · intro hgroupAt
          cases hgroupAt with
          | inside hsame hi hpath =>
            obtain rfl := Option.some.inj (hgroup.symm.trans hsame)
            rw [List.getElem?_map, Option.map_eq_some_iff] at hi
            obtain ⟨es, hes, rfl⟩ := hi
            exact .inside hxs (by rw [List.getElem?_map, hes]; rfl) ((hinner es hes).2 hpath)
    · rw [hread]
      refine documentsAt_iff_of_plain (fun inner hinner => ?_) ?_ path
      · rw [group?_eq_some_iff, Value.list.injEq] at hinner
        rw [hanswers (by rw [hinner, all_isAnswer])] at hinner
        exact List.map_eq_nil_iff.1 hinner.symm
      · rintro ys heq
        obtain rfl := Value.list.inj heq
        exact hno
  | _ => exact documentsAt_iff_of_plain (by rintro inner ⟨⟩) (by rintro xs ⟨⟩) path
termination_by structural path

/-- An answer that is read from a map without answers is read again from its own document, and the
groups of answers in it are at exactly the places where a list is read as answers, in the map as in
that document. -/
theorem ofValue_toDocument {es : List (Value × Value)} (h : (Value.map es).Unread) :
    ∃ a, ofValue (.map es) = .ok a ∧ ofValue a.toDocument = .ok a ∧ ∀ path,
      (DocumentsAt (Value.fieldD "value" es) path ↔ GroupAt a.value path) ∧
        (DocumentsAt (writeValue a.value) path ↔ GroupAt a.value path) := by
  have hvalue := h.fieldD "value"
  obtain ⟨hunread, hagain⟩ := readValue_writeValue _ hvalue
  refine ⟨ofMap es, ?_, ?_, fun path => ⟨documentsAt_iff hvalue path, ?_⟩⟩
  · rw [ofValue, valueIn_eq]
    rfl
  · show ofValue (item _ (writeValue (readValue _))) = _
    rw [ofValue_item, hagain]
    rfl
  · show DocumentsAt (writeValue (readValue _)) path ↔ _
    rw [documentsAt_iff hunread path, hagain]
    rfl

def guestValue : Value :=
  .list [item (.text "name")
    (.list [item (.text "first") (.text "Ada"), item (.text "last") .null]),
    item (.text "friends") (.list []),
    item (.text "pets") (.list [item (.text "dog") .null, .map [(.text "value", .text "cat")]]),
    item (.text "tags") (.list [item (.text "new") .null, .text "old"])]

/-- The answers come back, and the name is a group below that of the guest both times. -/
theorem ofValue_toDocument_guest :
    ∃ a, ofValue (item (.text "guest") guestValue) = .ok a ∧ ofValue a.toDocument = .ok a ∧
      GroupAt a.value [0] ∧ DocumentsAt (writeValue a.value) [0] ∧ ¬ GroupAt a.value [1] := by
  have hunread : (item (.text "guest") guestValue).Unread := by
    simp [guestValue, item, unread_text, unread_null]
  obtain ⟨a, hread, hagain, hpaths⟩ := ofValue_toDocument hunread
  have hvalue : Value.fieldD "value" [(.text "slug", .text "guest"), (.text "value", guestValue)] =
      guestValue := rfl
  rw [hvalue] at hpaths
  have hname : DocumentsAt guestValue [0] :=
    .inside (by decide) rfl (.here (List.cons_ne_nil _ _) (by decide))
  have hgroup := (hpaths [0]).1.1 hname
  refine ⟨a, hread, hagain, hgroup, (hpaths [0]).2.2 hgroup, fun h => ?_⟩
  -- the second answer is a list without elements
  cases (hpaths [1]).1.2 h with
  | inside _ hi hpath =>
    cases hi
    cases hpath with
    | here hne _ => exact hne rfl

end Answer

end Intake
