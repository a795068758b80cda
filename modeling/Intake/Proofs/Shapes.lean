import Intake.Proofs.Payloads

/-! The shape of a submission, told in three ways. The check goes through a value by the schema of
submissions, keyword by keyword. The schema says what it accepts, and results can be described
outright. Schema and description say the same about a result in terms of its parts. -/

namespace Intake

namespace Submission
open Schema

mutual

inductive IsResult : Value → Prop
  | bare {es : List (Value × Value)} {s : String} (hslug : Value.field? "slug" es = some (.text s))
      (hne : s ≠ "") (hvalue : Value.field? "value" es = none) : IsResult (.map es)
  | valued {es : List (Value × Value)} {s : String} {v : Value}
      (hslug : Value.field? "slug" es = some (.text s)) (hne : s ≠ "")
      (hvalue : Value.field? "value" es = some v) (h : IsResultValue v) : IsResult (.map es)

/-- A scalar, any map, or a list where what is no scalar is a result. -/
inductive IsResultValue : Value → Prop
  | scalar {v : Value} (h : isScalar v = true) : IsResultValue v
  | map (es : List (Value × Value)) : IsResultValue (.map es)
  | list {xs : List Value} (h : ∀ x ∈ xs, isScalar x = false → IsResult x) :
      IsResultValue (.list xs)

end

def IsSubmission (v : Value) : Prop := ∃ xs, v = .list xs ∧ ∀ x ∈ xs, IsResult x

theorem tellsShapes_described : TellsShapes IsResult IsResultValue where
  result_iff v := by
    constructor
    · intro h
      cases h with
      | bare hslug hne hvalue =>
        refine ⟨_, rfl, namesSlug_iff.2 ⟨_, hslug, hne⟩, fun w hw => ?_⟩
        cases hvalue.symm.trans hw
      | valued hslug hne hvalue h =>
        refine ⟨_, rfl, namesSlug_iff.2 ⟨_, hslug, hne⟩, fun w hw => ?_⟩
        obtain rfl := Option.some.inj (hvalue.symm.trans hw)
        exact h
    · rintro ⟨es, rfl, hnames, hvalue⟩
      obtain ⟨s, hslug, hne⟩ := namesSlug_iff.1 hnames
      cases hw : Value.field? "value" es with
      | none => exact .bare hslug hne hw
      | some w => exact .valued hslug hne hw (hvalue w hw)
  value_iff v := by
    constructor
    · intro h
      cases h with
      | scalar h => exact .inl h
      | map es => exact .inr (.inl ⟨es, rfl⟩)
      | list h =>
        refine .inr (.inr ⟨_, rfl, fun x hx => ?_⟩)
        rw [or_iff_not_imp_left, Bool.not_eq_true]
        exact h x hx
    · rintro (h | ⟨es, rfl⟩ | ⟨xs, rfl, h⟩)
      · exact .scalar h
      · exact .map es
      · refine .list fun x hx hscalar => (h x hx).resolve_left ?_
        rw [hscalar]
        exact Bool.false_ne_true

theorem isResult_iff {x : Value} : IsResult x ↔ isAnswerShape x = true :=
  (tellsShapes_described.isAnswerShape_iff x).symm

@[simp] theorem accepts_submissionSchema_iff {v : Value} :
    Accepts definitions submissionSchema v ↔ IsSubmission v := by
  rw [submissionSchema, accepts_listOf_iff]
  simp only [IsSubmission, isResult_iff, tellsShapes_schema.isAnswerShape_iff]

def IsAtMostOne (path : String) (xs : List Issue) : Prop :=
  ∃ o : Option Issue, xs = o.toList ∧ ∀ i ∈ o, i.path = path

theorem isAtMostOne_nil (path : String) : IsAtMostOne path [] := ⟨none, rfl, by simp⟩

theorem isAtMostOne_singleton (path message : String) : IsAtMostOne path [⟨path, message⟩] :=
  ⟨some ⟨path, message⟩, rfl, by simp⟩

theorem isAtMostOne_ite {path : String} {p : Prop} [Decidable p] {xs ys : List Issue}
    (hxs : IsAtMostOne path xs) (hys : IsAtMostOne path ys) :
    IsAtMostOne path (if p then xs else ys) := by
  split
  · exact hxs
  · exact hys

theorem isAtMostOne_types (path : String) (kinds : List Kind) (v : Value) :
    IsAtMostOne path ((types kinds).issues path v) := by
  rw [issues_types]
  exact isAtMostOne_ite (isAtMostOne_nil path) (isAtMostOne_singleton path _)

theorem isAtMostOne_slugSchema (path : String) (v : Value) :
    IsAtMostOne path (slugSchema.issues path v) := by
  have hissues : slugSchema.issues path v =
      (types [.text]).issues path v ++ (minLength 1).issues path v := by
    simp [slugSchema, List.flatMap_cons]
  cases v with
  | text s =>
    have htype : (types [.text]).issues path (.text s) = [] := by simp [Kind.of?]
    rw [hissues, htype, List.nil_append, Schema.issues]
    exact isAtMostOne_ite (isAtMostOne_nil path) (isAtMostOne_singleton path _)
  | _ =>
    rw [hissues, Schema.issues.eq_def path (minLength 1), List.append_nil]
    exact isAtMostOne_types path _ _

theorem isAtMostOne_valueSchema (path : String) (v : Value) :
    IsAtMostOne path (valueSchema.issues path v) := by
  rw [valueSchema, issues_anyOf]
  exact isAtMostOne_ite (isAtMostOne_nil path) (isAtMostOne_singleton path _)

theorem itemIssues_eq (position : Nat) (item : Value) : itemIssues position item =
    (types [.map]).issues s!"[{position}]" item ++
      ((required ["slug"]).issues s!"[{position}]" item ++
        ((property "slug" slugSchema).issues s!"[{position}]" item ++
          (property "value" (reference "value")).issues s!"[{position}]" item)) := by
  rw [itemIssues, issues_reference rfl, resultSchema, issues_allOf]
  simp only [List.flatMap_cons, List.flatMap_nil, List.append_nil]

theorem slugIssues_cases (path : String) (es : List (Value × Value)) :
    ∃ o : Option Issue, (required ["slug"]).issues path (.map es) ++
      (property "slug" slugSchema).issues path (.map es) = o.toList ∧
        ∀ i ∈ o, i.path = path ∨ i.path = path ++ "/slug" := by
  have hslash : path ++ "/" ++ "slug" = path ++ "/slug" := String.append_assoc
  rw [issues_property_map, hslash]
  cases hw : Value.field? "slug" es with
  | none => exact ⟨some ⟨path, _⟩, by simp [Schema.issues, hw]; rfl, by simp⟩
  | some w =>
    obtain ⟨o, ho, hpath⟩ := isAtMostOne_slugSchema (path ++ "/slug") w
    exact ⟨o, by simp [Schema.issues, hw, ho], fun i hi => .inr (hpath i hi)⟩

theorem isAtMostOne_property_value (path : String) (es : List (Value × Value)) :
    IsAtMostOne (path ++ "/value")
      ((property "value" (reference "value")).issues path (.map es)) := by
  have hslash : path ++ "/" ++ "value" = path ++ "/value" := String.append_assoc
  rw [issues_property_map, hslash]
  cases Value.field? "value" es with
  | none => exact isAtMostOne_nil _
  | some w =>
    rw [Option.map_some, Option.getD_some, issues_reference rfl]
    exact isAtMostOne_valueSchema _ w

theorem itemIssues_cases (position : Nat) (item : Value) :
    ∃ s v : Option Issue, itemIssues position item = s.toList ++ v.toList ∧
      (∀ i ∈ s, i.path = s!"[{position}]" ∨ i.path = s!"[{position}]" ++ "/slug") ∧
      ∀ i ∈ v, i.path = s!"[{position}]" ++ "/value" := by
  rw [itemIssues_eq]
  generalize s!"[{position}]" = path
  by_cases hmap : ∃ es, item = .map es
  · obtain ⟨es, rfl⟩ := hmap
    have htype : (types [.map]).issues path (.map es) = [] := by simp [Kind.of?]
    obtain ⟨s, hs, hslug⟩ := slugIssues_cases path es
    obtain ⟨v, hv, hvalue⟩ := isAtMostOne_property_value path es
    refine ⟨s, v, ?_, hslug, hvalue⟩
    rw [htype, List.nil_append, ← List.append_assoc, hs, hv]
  · obtain ⟨s, hs, hpath⟩ := isAtMostOne_types path [.map] item
    -- only a map is asked for a slug and a value
    have hrequired : (required ["slug"]).issues path item = [] :=
      (Schema.issues_eq_nil_iff _ _ _).2 (.required fun es h => absurd ⟨es, h⟩ hmap)
    have hproperty : ∀ name s, (property name s).issues path item = [] := fun name s =>
      (Schema.issues_eq_nil_iff _ _ _).2 (.property fun es _ h => absurd ⟨es, h⟩ hmap)
    refine ⟨s, none, ?_, fun i hi => .inl (hpath i hi), by simp⟩
    rw [hs, hrequired, hproperty, hproperty]
    rfl

theorem length_toList_append_le {α : Type} (s v : Option α) :
    (s.toList ++ v.toList).length ≤ 2 := by
  cases s <;> cases v <;> simp

theorem issues_list (xs : List Value) : submissionSchema.issues "" (.list xs) =
    xs.zipIdx.flatMap fun e => itemIssues e.2 e.1 := by
  have htype : (types [.list]).issues "" (.list xs) = [] := by simp [Kind.of?]
  rw [submissionSchema, issues_allOf, List.flatMap_cons, List.flatMap_cons, List.flatMap_nil, htype,
    issues_items_list, List.nil_append, List.append_nil]
  simp only [String.empty_append, itemIssues]

theorem shapeFailures_list_perm (xs : List Value) :
    (shapeFailures (.list xs) false).Perm
      ((xs.zipIdx.flatMap fun e => itemIssues e.2 e.1).map fun i => shapeFailure i.display) := by
  rw [← issues_list]
  exact (List.mergeSort_perm _ _).map _

theorem shapeFailures_eq_nil_iff_decode {v : Value} : shapeFailures v false = [] ↔
    ∃ w, decode v = .ok w ∧ IsSubmission w := by
  simp only [shapeFailures_eq_nil_iff, IsSubmission, isResult_iff]
  constructor
  · rintro ⟨xs, hdecode, hshapes⟩
    exact ⟨_, hdecode, xs, rfl, hshapes⟩
  · rintro ⟨_, hdecode, xs, rfl, hshapes⟩
    exact ⟨xs, hdecode, hshapes⟩

/-- The check accepts exactly lists of results, and of texts and bytes exactly those that are JSON
for such a list. They are what the schema accepts. In a list that is not accepted every item adds at
most two failures to those of the others, which are about the item. -/
theorem shapeFailures_exact (v : Value) :
    ((∀ s, v ≠ .text s) → (∀ bs, v ≠ .bytes bs) → (shapeFailures v false = [] ↔ IsSubmission v)) ∧
    (∀ s, shapeFailures (.text s) false = [] ↔
      ∃ w, Json.readChars s.toList = .ok w ∧ IsSubmission w) ∧
    (∀ bs, shapeFailures (.bytes bs) false = [] ↔
      ∃ w, Json.readBytes bs = .ok w ∧ IsSubmission w) ∧
    (IsSubmission v ↔ Accepts definitions submissionSchema v) ∧
    (∀ xs, v = .list xs → (shapeFailures v false).Perm
      ((xs.zipIdx.flatMap fun e => itemIssues e.2 e.1).map fun i => shapeFailure i.display)) ∧
    ∀ position item, (itemIssues position item).length ≤ 2 ∧
      (itemIssues position item = [] ↔ IsResult item) ∧
      ∀ i ∈ itemIssues position item, i.path ∈
        [s!"[{position}]", s!"[{position}]" ++ "/slug", s!"[{position}]" ++ "/value"] := by
  refine ⟨fun htext hbytes => ?_, fun s => shapeFailures_eq_nil_iff_decode,
    fun bs => shapeFailures_eq_nil_iff_decode, accepts_submissionSchema_iff.symm, ?_,
    fun position item => ?_⟩
  · have hdecode : decode v = .ok v := by
      cases v with
      | text s => exact absurd rfl (htext s)
      | bytes bs => exact absurd rfl (hbytes bs)
      | _ => rfl
    rw [shapeFailures_eq_nil_iff_decode, hdecode]
    simp only [Except.ok.injEq, exists_eq_left']
  · rintro xs rfl
    exact shapeFailures_list_perm xs
  · obtain ⟨s, w, hissues, hslug, hvalue⟩ := itemIssues_cases position item
    refine ⟨?_, itemIssues_eq_nil_iff.trans isResult_iff.symm, ?_⟩
    · rw [hissues]
      exact length_toList_append_le s w
    · intro i hi
      rw [hissues, List.mem_append, Option.mem_toList, Option.mem_toList] at hi
      rcases hi with hi | hi
      · rcases hslug i hi with h | h <;> simp [h]
      · simp [hvalue i hi]

def mixedItem : Value :=
  .map [(.text "slug", .text "guest"),
    (.text "value", .list [.map [(.text "slug", .text "name"), (.text "value", .text "Ann")],
      .int 1])]

def pairItem : Value :=
  .map [(.text "slug", .text "pair"), (.text "value", .tuple [.int 1, .int 2])]

theorem shapeFailures_exact_mixed :
    IsSubmission (.list [mixedItem]) ∧ shapeFailures (.list [mixedItem]) false = [] ∧
      Accepts definitions submissionSchema (.list [mixedItem]) ∧
      ¬ IsSubmission (.list [mixedItem, pairItem]) ∧
      shapeFailures (.list [mixedItem, pairItem]) false ≠ [] := by
  have hmixed : IsResult mixedItem := isResult_iff.2 (by decide)
  have hpair : ¬ IsResult pairItem := by
    rw [isResult_iff]
    decide
  have hsubmission : IsSubmission (.list [mixedItem]) :=
    ⟨_, rfl, List.forall_mem_singleton.2 hmixed⟩
  have hnone : ¬ IsSubmission (.list [mixedItem, pairItem]) := by
    rintro ⟨_, ⟨⟩, hall⟩
    exact hpair (hall _ (List.mem_cons_of_mem _ List.mem_cons_self))
  obtain ⟨haccepted, -, -, hschema, -⟩ := shapeFailures_exact (.list [mixedItem])
  obtain ⟨hrefused, -⟩ := shapeFailures_exact (.list [mixedItem, pairItem])
  exact ⟨hsubmission, (haccepted nofun nofun).2 hsubmission, hschema.1 hsubmission, hnone,
    mt (hrefused nofun nofun).1 hnone⟩

end Submission

end Intake
