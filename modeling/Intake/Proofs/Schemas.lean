import Intake.Proofs.Documents
import Intake.Submission.Shape

/-! What schemas accept, told without going through a value: results refer to the values in them and
these to the results among their elements. Nothing is wrong with a value exactly where it is
accepted, and the check of shapes that goes through a value part by part agrees. -/

namespace Intake

theorem forall_mem_zipIdx_iff {α : Type} {xs : List α} {p : α → Prop} :
    (∀ e ∈ xs.zipIdx, p e.1) ↔ ∀ x ∈ xs, p x := by
  constructor
  · intro h x hx
    obtain ⟨i, hi, rfl⟩ := List.getElem_of_mem hx
    exact h (xs[i], i) (List.mk_mem_zipIdx_iff_getElem?.2 (List.getElem?_eq_getElem hi))
  · exact fun h e he => h e.1 (List.fst_mem_of_mem_zipIdx he)

namespace Kind
variable {v : Value}

theorem of?_eq_text_iff : of? v = some .text ↔ ∃ s, v = .text s := by
  cases v <;> simp [of?]

theorem of?_eq_list_iff : of? v = some .list ↔ ∃ xs, v = .list xs := by
  cases v <;> simp [of?]

theorem of?_eq_map_iff : of? v = some .map ↔ ∃ es, v = .map es := by
  cases v <;> simp [of?]

end Kind

namespace Schema

/-- A value is accepted by a schema, given the definitions it may refer to. -/
inductive Accepts (definitions : String → Option Schema) : Schema → Value → Prop
  | types {kinds : List Kind} {v : Value} {k : Kind} (hv : Kind.of? v = some k) (hk : k ∈ kinds) :
      Accepts definitions (.types kinds) v
  | required {names : List String} {v : Value}
      (h : ∀ es, v = .map es → ∀ n ∈ names, (Value.field? n es).isSome = true) :
      Accepts definitions (.required names) v
  | property {name : String} {s : Schema} {v : Value}
      (h : ∀ es w, v = .map es → Value.field? name es = some w → Accepts definitions s w) :
      Accepts definitions (.property name s) v
  | minLength {least : Nat} {v : Value} (h : ∀ t, v = .text t → least ≤ t.length) :
      Accepts definitions (.minLength least) v
  | items {s : Schema} {v : Value}
      (h : ∀ xs x, v = .list xs → x ∈ xs → Accepts definitions s x) :
      Accepts definitions (.items s) v
  | anyOf {ss : List Schema} {s : Schema} {v : Value} (hs : s ∈ ss) (h : Accepts definitions s v) :
      Accepts definitions (.anyOf ss) v
  | allOf {ss : List Schema} {v : Value} (h : ∀ s ∈ ss, Accepts definitions s v) :
      Accepts definitions (.allOf ss) v
  | reference {name : String} {s : Schema} {v : Value} (hs : definitions name = some s)
      (h : Accepts definitions s v) : Accepts definitions (.reference name) v

section
variable {definitions : String → Option Schema} {s : Schema} {ss : List Schema} {v : Value}

theorem accepts_types_iff {kinds : List Kind} :
    Accepts definitions (.types kinds) v ↔ ∃ k ∈ kinds, Kind.of? v = some k := by
  constructor
  · intro h
    cases h with
    | types hv hk => exact ⟨_, hk, hv⟩
  · rintro ⟨k, hk, hv⟩
    exact .types hv hk

@[simp]
theorem accepts_type_iff {k : Kind} : Accepts definitions (.types [k]) v ↔ Kind.of? v = some k := by
  simp only [accepts_types_iff, List.mem_singleton, exists_eq_left]

@[simp]
theorem accepts_required_iff {names : List String} : Accepts definitions (.required names) v ↔
    ∀ es, v = .map es → ∀ n ∈ names, (Value.field? n es).isSome = true := by
  refine ⟨fun h => ?_, .required⟩
  cases h with
  | required h => exact h

@[simp] theorem accepts_property_iff {name : String} : Accepts definitions (.property name s) v ↔
    ∀ es w, v = .map es → Value.field? name es = some w → Accepts definitions s w := by
  refine ⟨fun h => ?_, .property⟩
  cases h with
  | property h => exact h

@[simp] theorem accepts_minLength_iff {least : Nat} : Accepts definitions (.minLength least) v ↔
    ∀ t, v = .text t → least ≤ t.length := by
  refine ⟨fun h => ?_, .minLength⟩
  cases h with
  | minLength h => exact h

@[simp] theorem accepts_items_iff : Accepts definitions (.items s) v ↔
    ∀ xs x, v = .list xs → x ∈ xs → Accepts definitions s x := by
  refine ⟨fun h => ?_, .items⟩
  cases h with
  | items h => exact h

theorem accepts_anyOf_iff :
    Accepts definitions (.anyOf ss) v ↔ ∃ s ∈ ss, Accepts definitions s v := by
  constructor
  · intro h
    cases h with
    | anyOf hs h => exact ⟨_, hs, h⟩
  · rintro ⟨s, hs, h⟩
    exact .anyOf hs h

@[simp] theorem accepts_allOf_iff :
    Accepts definitions (.allOf ss) v ↔ ∀ s ∈ ss, Accepts definitions s v := by
  refine ⟨fun h => ?_, .allOf⟩
  cases h with
  | allOf h => exact h

theorem accepts_listOf_iff : Accepts definitions (.allOf [.types [.list], .items s]) v ↔
    ∃ xs, v = .list xs ∧ ∀ x ∈ xs, Accepts definitions s x := by
  simp only [accepts_allOf_iff, List.forall_mem_cons, accepts_type_iff, Kind.of?_eq_list_iff,
    accepts_items_iff]
  constructor
  · rintro ⟨⟨xs, rfl⟩, h, -⟩
    exact ⟨xs, rfl, fun x hx => h xs x rfl hx⟩
  · rintro ⟨xs, rfl, h⟩
    refine ⟨⟨xs, rfl⟩, fun ys x heq hx => ?_, nofun⟩
    rw [← Value.list.inj heq] at hx
    exact h x hx

theorem accepts_reference_iff {name : String} (hs : definitions name = some s) :
    Accepts definitions (.reference name) v ↔ Accepts definitions s v := by
  refine ⟨fun h => ?_, .reference hs⟩
  cases h with
  | reference hs' h =>
    rw [Option.some.inj (hs.symm.trans hs')]
    exact h

theorem issues_property_eq_nil_iff {path name : String}
    (h : ∀ es w, v = .map es → Value.field? name es = some w →
      (issues (path ++ "/" ++ name) s w = [] ↔ Accepts definitions s w)) :
    issues path (.property name s) v = [] ↔ Accepts definitions (.property name s) v := by
  rw [accepts_property_iff]
  cases v with
  | map es =>
    rw [issues_property_map]
    cases hw : Value.field? name es with
    | none =>
      refine iff_of_true rfl ?_
      rintro _ w ⟨⟩ hw'
      cases hw.symm.trans hw'
    | some w =>
      refine (h es w rfl hw).trans ⟨?_, fun haccepts => haccepts es w rfl hw⟩
      rintro haccepts _ w' ⟨⟩ hw'
      obtain rfl := Option.some.inj (hw.symm.trans hw')
      exact haccepts
  | _ => simp [issues]

theorem issues_items_eq_nil_iff {path : String}
    (h : ∀ xs, v = .list xs → ∀ e ∈ xs.zipIdx,
      (issues (path ++ s!"[{e.2}]") s e.1 = [] ↔ Accepts definitions s e.1)) :
    issues path (.items s) v = [] ↔ Accepts definitions (.items s) v := by
  rw [accepts_items_iff]
  cases v with
  | list xs =>
    rw [issues_items_list, List.flatMap_eq_nil_iff, forall₂_congr (h xs rfl),
      forall_mem_zipIdx_iff (p := Accepts definitions s)]
    refine ⟨?_, fun haccepts x => haccepts xs x rfl⟩
    rintro haccepts _ x ⟨⟩
    exact haccepts x
  | _ => simp [issues]

theorem issues_anyOf_eq_nil_iff {path : String}
    (h : ∀ s ∈ ss, (issues path s v = [] ↔ Accepts definitions s v)) :
    issues path (.anyOf ss) v = [] ↔ Accepts definitions (.anyOf ss) v := by
  have hsome : [] ∈ ss.map (issues path · v) ↔ ∃ s ∈ ss, Accepts definitions s v := by
    rw [List.mem_map]
    exact exists_congr fun s => and_congr_right (h s)
  rw [accepts_anyOf_iff, issues_anyOf, ← hsome]
  simp

/-- Nothing is wrong with a value exactly where the schema accepts it. -/
@[simp]
theorem issues_eq_nil_iff (path : String) (s : Schema) (v : Value) :
    issues path s v = [] ↔ Accepts Submission.definitions s v := by
  match s with
  | .types kinds =>
    rw [accepts_types_iff, issues_types, ite_eq_left_iff]
    cases Kind.of? v <;> simp
  | .required names =>
    rw [accepts_required_iff]
    cases v <;> simp [issues, Option.isSome_iff_ne_none]
  | .property name s =>
    exact issues_property_eq_nil_iff fun es w hv hw => issues_eq_nil_iff (path ++ "/" ++ name) s w
  | .minLength least =>
    rw [accepts_minLength_iff]
    cases v <;> simp [issues]
  | .items s =>
    exact issues_items_eq_nil_iff fun xs hv e he => issues_eq_nil_iff (path ++ s!"[{e.2}]") s e.1
  | .anyOf ss => exact issues_anyOf_eq_nil_iff fun s hs => issues_eq_nil_iff path s v
  | .allOf ss =>
    rw [accepts_allOf_iff, issues_allOf, List.flatMap_eq_nil_iff]
    exact forall₂_congr fun s hs => issues_eq_nil_iff path s v
  | .reference name =>
    cases hs : Submission.definitions name with
    | none =>
      refine iff_of_false (issues_reference_ne_nil hs) fun h => ?_
      cases h with
      | reference hs' h => cases hs.symm.trans hs'
    | some s =>
      rw [accepts_reference_iff hs, issues_reference hs]
      exact issues_eq_nil_iff path s v
termination_by (sizeOf v, s.weight)
decreasing_by
  · subst hv
    exact .left _ _ (sizeOf_lt_of_field? hw)
  · subst hv
    exact .left _ _ (sizeOf_lt_of_mem_zipIdx he)
  · exact .right _ (weight_lt_of_mem hs)
  · exact .right _ (weight_lt_of_mem hs)
  · exact .right _ (weight_lt_of_definitions hs)

end

end Schema

namespace Submission
open Schema

theorem namesSlug_iff {es : List (Value × Value)} :
    namesSlug es = true ↔ ∃ s, Value.field? "slug" es = some (.text s) ∧ s ≠ "" := by
  unfold namesSlug
  constructor
  · intro h
    split at h
    case h_1 s hs => exact ⟨s, hs, bne_iff_ne.1 h⟩
    case h_2 => cases h
  · rintro ⟨s, hs, hne⟩
    rw [hs]
    exact bne_iff_ne.2 hne

theorem hasValueShape_eq (es : List (Value × Value)) :
    hasValueShape es = (Value.field? "value" es).all isValueShape := by
  induction es with
  | nil => rfl
  | cons e es ih =>
    obtain ⟨k, v⟩ := e
    rw [hasValueShape, Value.field?_cons, ih]
    cases Value.equal (.text "value") k <;> rfl

@[simp] theorem areElementShapes_iff {xs : List Value} :
    areElementShapes xs = true ↔ ∀ x ∈ xs, isScalar x = true ∨ isAnswerShape x = true := by
  induction xs with
  | nil => exact iff_of_true rfl nofun
  | cons x xs ih =>
    rw [areElementShapes, Bool.and_eq_true, Bool.or_eq_true, ih, List.forall_mem_cons]

/-- Two predicates that tell results and the values in them by their parts. -/
structure TellsShapes (result value : Value → Prop) : Prop where
  result_iff : ∀ v, result v ↔ ∃ es, v = .map es ∧ namesSlug es = true ∧
    ∀ w, Value.field? "value" es = some w → value w
  value_iff : ∀ v, value v ↔ isScalar v = true ∨ (∃ es, v = .map es) ∨
    ∃ xs, v = .list xs ∧ ∀ x ∈ xs, isScalar x = true ∨ result x

namespace TellsShapes
variable {result value : Value → Prop}

mutual

theorem isAnswerShape_iff (h : TellsShapes result value) (v : Value) :
    isAnswerShape v = true ↔ result v := by
  rw [h.result_iff]
  match v with
  | .map es =>
    rw [isAnswerShape, Bool.and_eq_true, hasValueShape_iff h es]
    simp only [Value.map.injEq, exists_eq_left']
  | .null | .bool _ | .int _ | .float _ | .text _ | .bytes _ | .date _ | .moment _ | .set _
  | .list _ | .tuple _ | .answer .. | .upload .. =>
    refine iff_of_false Bool.false_ne_true ?_
    rintro ⟨_, heq, _⟩
    cases heq
termination_by structural v

theorem hasValueShape_iff (h : TellsShapes result value) (es : List (Value × Value)) :
    hasValueShape es = true ↔ ∀ w, Value.field? "value" es = some w → value w := by
  match es with
  | [] => exact iff_of_true rfl nofun
  | (k, v) :: es =>
    rw [hasValueShape, Value.field?_cons]
    split
    · simp only [Option.some.injEq, forall_eq']
      exact isValueShape_iff h v
    · exact hasValueShape_iff h es
termination_by structural es

theorem isValueShape_iff (h : TellsShapes result value) (v : Value) :
    isValueShape v = true ↔ value v := by
  rw [h.value_iff]
  match v with
  | .list xs =>
    rw [isValueShape, areElementShapes_iff h xs]
    simp [isScalar]
  | .map es => exact iff_of_true rfl (.inr (.inl ⟨es, rfl⟩))
  | .null | .bool _ | .int _ | .float _ | .text _ => exact iff_of_true rfl (.inl rfl)
  | .bytes _ | .date _ | .moment _ | .set _ | .tuple _ | .answer .. | .upload .. =>
    refine iff_of_false Bool.false_ne_true ?_
    rintro (hscalar | ⟨_, heq⟩ | ⟨_, heq, _⟩)
    · cases hscalar
    · cases heq
    · cases heq
termination_by structural v

theorem areElementShapes_iff (h : TellsShapes result value) (xs : List Value) :
    areElementShapes xs = true ↔ ∀ x ∈ xs, isScalar x = true ∨ result x := by
  match xs with
  | [] => exact iff_of_true rfl nofun
  | x :: xs =>
    rw [areElementShapes, Bool.and_eq_true, Bool.or_eq_true, isAnswerShape_iff h x,
      areElementShapes_iff h xs, List.forall_mem_cons]
termination_by structural xs

end

end TellsShapes

@[simp] theorem accepts_scalar_iff {v : Value} :
    Accepts definitions (.reference "scalar") v ↔ isScalar v = true := by
  rw [accepts_reference_iff rfl, scalarSchema, accepts_types_iff]
  cases v <;> simp [Kind.of?, isScalar]

theorem accepts_slug_iff {v : Value} :
    Accepts definitions slugSchema v ↔ ∃ s, v = .text s ∧ s ≠ "" := by
  simp only [slugSchema, accepts_allOf_iff, List.forall_mem_cons, accepts_type_iff,
    Kind.of?_eq_text_iff, accepts_minLength_iff]
  constructor
  · rintro ⟨⟨s, rfl⟩, hlength, -⟩
    refine ⟨s, rfl, ?_⟩
    rintro rfl
    exact absurd (hlength "" rfl) (by decide)
  · rintro ⟨s, rfl, hne⟩
    refine ⟨⟨s, rfl⟩, fun t ht => ?_, nofun⟩
    obtain rfl := Value.text.inj ht
    rw [Nat.one_le_iff_ne_zero, ← String.length_toList, ne_eq, List.length_eq_zero_iff,
      String.toList_eq_nil_iff]
    exact hne

theorem tellsShapes_schema : TellsShapes (Accepts definitions (.reference "fieldResult"))
    (Accepts definitions (.reference "value")) where
  result_iff v := by
    rw [accepts_reference_iff rfl, resultSchema]
    simp only [accepts_allOf_iff, List.forall_mem_cons, accepts_type_iff, Kind.of?_eq_map_iff,
      accepts_required_iff, accepts_property_iff, accepts_slug_iff]
    constructor
    · rintro ⟨⟨es, rfl⟩, hrequired, hslug, hvalue, -⟩
      obtain ⟨w, hw⟩ := Option.isSome_iff_exists.1 ((hrequired es rfl).1)
      obtain ⟨s, rfl, hne⟩ := hslug es w rfl hw
      exact ⟨es, rfl, namesSlug_iff.2 ⟨s, hw, hne⟩, fun w hw => hvalue es w rfl hw⟩
    · rintro ⟨es, rfl, hnames, hvalue⟩
      obtain ⟨s, hs, hne⟩ := namesSlug_iff.1 hnames
      refine ⟨⟨es, rfl⟩, ?_, ?_, ?_, nofun⟩
      · rintro _ ⟨⟩
        refine ⟨?_, nofun⟩
        rw [hs]
        rfl
      · rintro _ w ⟨⟩ hw
        exact ⟨s, Option.some.inj (hw.symm.trans hs), hne⟩
      · rintro _ w ⟨⟩ hw
        exact hvalue w hw
  value_iff v := by
    rw [accepts_reference_iff rfl, valueSchema]
    simp only [accepts_anyOf_iff, List.exists_mem_cons_iff, accepts_type_iff, Kind.of?_eq_map_iff,
      accepts_listOf_iff, elementSchema, accepts_scalar_iff, List.not_mem_nil, false_and,
      exists_false, or_false]

end Submission

end Intake
