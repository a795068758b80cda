import Intake.Proofs.Documents
import Intake.Proofs.Definitions

/-! Documents that are not read as fields, which is not reported either. Most of what is wrong with
a document is a fault of the definition, but a fault that names a value that cannot be written
becomes another one, and a type that is no key is none of the definition. -/

namespace Intake
open Value

def Escapes {α : Type} (r : Except Fault α) : Prop :=
  ∃ f, r = .error f ∧ ∀ c, f ≠ .definition c

namespace Value

/-- Choices are not read and that is not reported: no list is given and the slug of the field cannot
be written, or the first of them that is no map cannot be. -/
def RefusesChoices (given slug : Value) : Prop :=
  given.truthy = true ∧ given.isList = false ∧ slug.isWritable = false ∨
    ∃ before v after, given = .list (before ++ v :: after) ∧ (∀ w ∈ before, w.isMap = true) ∧
      v.isMap = false ∧ v.isWritable = false

/-- A document that is not read as a field, which is not reported either: what would have to be
named cannot be written, the type is no key, or the first of the fields inside that is not read is
such a document. -/
inductive Unreportable : Value → Prop
  | validators {es : List (Value × Value)} (h : (fieldD "validators" es).isNull = false)
      (hmap : (fieldD "validators" es).isMap = false)
      (hslug : (fieldD "slug" es).isWritable = false) : Unreportable (.map es)
  | suggestions {es : List (Value × Value)}
      (hvalidators : (fieldD "validators" es).isNull = true ∨ (fieldD "validators" es).isMap = true)
      (h : (fieldD "suggestions" es).RefusesChoices (fieldD "slug" es)) : Unreportable (.map es)
  | type {es : List (Value × Value)} {a : Attributes} (ha : Attributes.ofEntries es = .ok a)
      (htype : FieldType.ofValue? (fieldD "type" es) = none)
      (h : ¬ (fieldD "type" es).IsKey) : Unreportable (.map es)
  | choices {es : List (Value × Value)} {a : Attributes} (ha : Attributes.ofEntries es = .ok a)
      (htype : FieldType.ofValue? (fieldD "type" es) = some .select)
      (h : (fieldD "options" es).RefusesChoices a.slug) : Unreportable (.map es)
  | fields {es : List (Value × Value)} {a : Attributes} (ha : Attributes.ofEntries es = .ok a)
      (htype : FieldType.ofValue? (fieldD "type" es) = some .group)
      (h : (fieldD "fields" es).truthy = true) (hlist : (fieldD "fields" es).isList = false)
      (hslug : a.slug.isWritable = false) : Unreportable (.map es)
  | inside {es : List (Value × Value)} {a : Attributes} {before after : List Value} {v : Value}
      (ha : Attributes.ofEntries es = .ok a)
      (htype : FieldType.ofValue? (fieldD "type" es) = some .group)
      (hfields : field? "fields" es = some (.list (before ++ v :: after)))
      (hbefore : ∀ w ∈ before, ∃ f, Field.ofValue w = .ok f) (h : Unreportable v) :
      Unreportable (.map es)

end Value

section
variable {α β : Type}

theorem not_escapes_ok (x : α) : ¬ Escapes (.ok x : Except Fault α) := by
  rintro ⟨f, h, _⟩
  cases h

theorem escapes_bind_iff {r : Except Fault α} {k : α → Except Fault β} :
    Escapes (r >>= k) ↔ Escapes r ∨ ∃ x, r = .ok x ∧ Escapes (k x) := by
  cases r with
  | error f =>
    have hbind : (Except.error f : Except Fault α) >>= k = .error f := rfl
    rw [hbind]
    simp [Escapes]
  | ok x =>
    rw [or_iff_right (not_escapes_ok x)]
    simp only [Except.ok.injEq, exists_eq_left']
    rfl

@[simp] theorem escapes_map_iff {r : Except Fault α} (g : α → β) :
    Escapes (do return g (← r)) ↔ Escapes r := by
  rw [escapes_bind_iff, or_iff_left]
  rintro ⟨x, _, h⟩
  exact not_escapes_ok _ h

@[simp] theorem escapes_toFault_iff {c : DefinitionCause} :
    Escapes (.error c.toFault : Except Fault α) ↔ c.isWritable = false := by
  unfold DefinitionCause.toFault Escapes
  cases c.isWritable <;> simp

theorem exists_split_cons_iff {p q : α → Prop} {x : α} {xs : List α} :
    (∃ before y after, x :: xs = before ++ y :: after ∧ (∀ w ∈ before, p w) ∧ q y) ↔
      q x ∨ p x ∧ ∃ before y after, xs = before ++ y :: after ∧ (∀ w ∈ before, p w) ∧ q y := by
  constructor
  · rintro ⟨before, y, after, heq, hbefore, hy⟩
    cases before with
    | nil =>
      obtain ⟨rfl, rfl⟩ := List.cons.inj heq
      exact .inl hy
    | cons w before =>
      obtain ⟨rfl, rfl⟩ := List.cons.inj heq
      obtain ⟨hw, hbefore⟩ := List.forall_mem_cons.1 hbefore
      exact .inr ⟨hw, before, y, after, rfl, hbefore, hy⟩
  · rintro (hx | ⟨hx, before, y, after, rfl, hbefore, hy⟩)
    · exact ⟨[], x, xs, rfl, nofun, hx⟩
    · exact ⟨x :: before, y, after, rfl, List.forall_mem_cons.2 ⟨hx, hbefore⟩, hy⟩

theorem escapes_cons_iff {r : Except Fault α} {rest : Except Fault (List α)} :
    Escapes (do return (← r) :: (← rest)) ↔ Escapes r ∨ (∃ x, r = .ok x) ∧ Escapes rest := by
  rw [escapes_bind_iff]
  refine or_congr_right ⟨?_, ?_⟩
  · rintro ⟨x, hx, h⟩
    exact ⟨⟨x, hx⟩, (escapes_map_iff _).1 h⟩
  · rintro ⟨⟨x, hx⟩, h⟩
    exact ⟨x, hx, (escapes_map_iff _).2 h⟩

theorem escapes_mapM_iff {g : α → Except Fault β} {xs : List α} :
    Escapes (xs.mapM g) ↔ ∃ before x after, xs = before ++ x :: after ∧
      (∀ y ∈ before, ∃ z, g y = .ok z) ∧ Escapes (g x) := by
  induction xs with
  | nil =>
    refine iff_of_false (not_escapes_ok []) ?_
    rintro ⟨before, x, after, h, _⟩
    simp at h
  | cons x xs ih => rw [List.mapM_cons, escapes_cons_iff, exists_split_cons_iff, ih]

end

theorem Value.escapes_asKey_iff {v : Value} : Escapes v.asKey ↔ ¬ v.IsKey := by
  unfold Value.IsKey Value.asKey
  cases v.unhashable? with
  | none => simp [not_escapes_ok]
  | some t => simp [Escapes]

theorem Choice.exists_ofValue_iff {v : Value} :
    (∃ choice, Choice.ofValue v = .ok choice) ↔ v.isMap = true := by
  cases v <;> simp [Choice.ofValue, Value.isMap]

theorem Choice.escapes_ofValue_iff {v : Value} :
    Escapes (Choice.ofValue v) ↔ v.isMap = false ∧ v.isWritable = false := by
  cases v with
  | map es => exact iff_of_false (not_escapes_ok _) (by simp [Value.isMap])
  | _ => exact escapes_toFault_iff.trans (and_iff_right rfl).symm

theorem escapes_listOr_iff {refuse : DefinitionCause} {raw : Value} :
    Escapes (listOr refuse raw) ↔
      raw.truthy = true ∧ raw.isList = false ∧ refuse.isWritable = false := by
  unfold listOr
  cases htruthy : raw.truthy with
  | false => exact iff_of_false (not_escapes_ok []) nofun
  | true =>
    cases raw with
    | list xs => exact iff_of_false (not_escapes_ok xs) nofun
    | _ => exact escapes_toFault_iff.trans (by simp [Value.isList])

@[simp] theorem listOr_eq_ok_iff {refuse : DefinitionCause} {raw : Value} {xs : List Value} :
    listOr refuse raw = .ok xs ↔
      raw = .list xs ∨ raw.truthy = false ∧ raw.isList = false ∧ xs = [] := by
  unfold listOr
  cases raw with
  | list ys => cases ys <;> simp [Value.truthy, Value.isList, eq_comm]
  | _ => cases Value.truthy _ <;> simp [Value.isList, eq_comm]

theorem escapes_choices_iff {refuse : DefinitionCause} {given slug : Value}
    (hrefuse : refuse.isWritable = slug.isWritable) {β : Type} (g : List Choice → β) :
    Escapes (do return g (← (← listOr refuse given).mapM Choice.ofValue)) ↔
      given.RefusesChoices slug := by
  unfold RefusesChoices
  rw [escapes_bind_iff, escapes_listOr_iff, hrefuse]
  refine or_congr_right ?_
  simp only [escapes_map_iff, escapes_mapM_iff, Choice.exists_ofValue_iff,
    Choice.escapes_ofValue_iff]
  constructor
  · rintro ⟨xs, hxs, before, v, after, rfl, hbefore, hv⟩
    rcases listOr_eq_ok_iff.1 hxs with rfl | ⟨_, _, h⟩
    · exact ⟨before, v, after, rfl, hbefore, hv⟩
    · simp at h
  · rintro ⟨before, v, after, rfl, hbefore, hv⟩
    exact ⟨_, listOr_list _ _, before, v, after, rfl, hbefore, hv⟩

namespace Attributes

theorem escapes_ofEntries_iff {es : List (Value × Value)} : Escapes (Attributes.ofEntries es) ↔
    (fieldD "validators" es).isNull = false ∧ (fieldD "validators" es).isMap = false ∧
        (fieldD "slug" es).isWritable = false ∨
      ((fieldD "validators" es).isNull = true ∨ (fieldD "validators" es).isMap = true) ∧
        (fieldD "suggestions" es).RefusesChoices (fieldD "slug" es) := by
  have hslug : (DefinitionCause.suggestions (fieldD "slug" es)).isWritable =
      (fieldD "slug" es).isWritable := rfl
  unfold Attributes.ofEntries
  dsimp only
  cases fieldD "validators" es with
  | null =>
    refine (escapes_choices_iff hslug _).trans ?_
    simp [Value.isNull]
  | map rules =>
    refine (escapes_choices_iff hslug _).trans ?_
    simp [Value.isMap]
  | _ =>
    refine escapes_toFault_iff.trans ?_
    simp [Value.isNull, Value.isMap, DefinitionCause.isWritable]

end Attributes

namespace Field

def StopsAt (xs : List Value) : Prop :=
  ∃ before v after, xs = before ++ v :: after ∧ (∀ w ∈ before, ∃ f, ofValue w = .ok f) ∧
    v.Unreportable

theorem escapes_ofEntries_iff {es : List (Value × Value)}
    (hchildren : Escapes (childrenIn es) ↔
      ∃ xs, field? "fields" es = some (.list xs) ∧ StopsAt xs) :
    Escapes (ofEntries es fun _ => childrenIn es) ↔ (Value.map es).Unreportable := by
  constructor
  · intro h
    rcases escapes_bind_iff.1 h with h | ⟨a, ha, h⟩
    · rcases Attributes.escapes_ofEntries_iff.1 h with ⟨hnull, hmap, hslug⟩ | ⟨hvalidators, h⟩
      · exact .validators hnull hmap hslug
      · exact .suggestions hvalidators h
    · dsimp only at h
      -- the type decides what is read besides
      split at h
      · rename_i htype
        rcases escapes_bind_iff.1 h with h | ⟨xs, _, h⟩
        · obtain ⟨htruthy, hlist, hslug⟩ := escapes_listOr_iff.1 h
          exact .fields ha htype htruthy hlist hslug
        · obtain ⟨_, hfields, before, v, after, rfl, hbefore, hv⟩ :=
            hchildren.1 ((escapes_map_iff _).1 h)
          exact .inside ha htype hfields hbefore hv
      · rename_i htype
        exact .choices ha htype ((escapes_choices_iff rfl _).1 h)
      · exact absurd h (not_escapes_ok _)
      · rename_i htype
        exact .type ha htype (Value.escapes_asKey_iff.1 ((escapes_map_iff _).1 h))
  · intro h
    refine escapes_bind_iff.2 ?_
    cases h with
    | validators hnull hmap hslug =>
      exact .inl (Attributes.escapes_ofEntries_iff.2 (.inl ⟨hnull, hmap, hslug⟩))
    | suggestions hvalidators h =>
      exact .inl (Attributes.escapes_ofEntries_iff.2 (.inr ⟨hvalidators, h⟩))
    | @type _ a ha htype h =>
      refine .inr ⟨a, ha, ?_⟩
      dsimp only
      rw [htype]
      exact (escapes_map_iff _).2 (Value.escapes_asKey_iff.2 h)
    | @choices _ a ha htype h =>
      refine .inr ⟨a, ha, ?_⟩
      dsimp only
      rw [htype]
      exact (escapes_choices_iff rfl _).2 h
    | @fields _ a ha htype htruthy hlist hslug =>
      refine .inr ⟨a, ha, ?_⟩
      dsimp only
      rw [htype]
      exact escapes_bind_iff.2 (.inl (escapes_listOr_iff.2 ⟨htruthy, hlist, hslug⟩))
    | @inside _ a before after v ha htype hfields hbefore hv =>
      refine .inr ⟨a, ha, ?_⟩
      have hlist : fieldD "fields" es = .list (before ++ v :: after) := by
        unfold fieldD
        rw [hfields]
        rfl
      dsimp only
      rw [htype, hlist]
      refine escapes_bind_iff.2 (.inr ⟨_, listOr_list _ _, (escapes_map_iff _).2 (hchildren.2 ?_)⟩)
      exact ⟨_, hfields, before, v, after, rfl, hbefore, hv⟩

mutual

theorem escapes_ofValue_iff (v : Value) : Escapes (ofValue v) ↔ v.Unreportable := by
  match v with
  | .map es => exact escapes_ofEntries_iff (escapes_childrenIn_iff es)
  | .null | .bool _ | .int _ | .float _ | .text _ | .bytes _ | .list _ | .tuple _ | .date _
  | .moment _ | .set _ | .answer _ _ | .upload _ _ _ _ _ =>
    refine iff_of_false ?_ nofun
    rintro ⟨f, h, hf⟩
    cases h
    exact hf _ rfl
termination_by structural v

theorem escapes_childrenIn_iff (es : List (Value × Value)) :
    Escapes (childrenIn es) ↔ ∃ xs, field? "fields" es = some (.list xs) ∧ StopsAt xs := by
  match es with
  | [] => exact iff_of_false (not_escapes_ok []) nofun
  | (k, v) :: es =>
    rw [childrenIn, field?_cons]
    split
    · rw [escapes_ofListValue_iff v]
      simp
    · exact escapes_childrenIn_iff es
termination_by structural es

theorem escapes_ofListValue_iff (v : Value) :
    Escapes (ofListValue v) ↔ ∃ xs, v = .list xs ∧ StopsAt xs := by
  match v with
  | .list xs =>
    have hxs := escapes_ofValues_iff xs
    simpa [ofListValue] using hxs
  | .null | .bool _ | .int _ | .float _ | .text _ | .bytes _ | .map _ | .tuple _ | .date _
  | .moment _ | .set _ | .answer _ _ | .upload _ _ _ _ _ =>
    exact iff_of_false (not_escapes_ok []) nofun
termination_by structural v

theorem escapes_ofValues_iff (xs : List Value) : Escapes (ofValues xs) ↔ StopsAt xs := by
  match xs with
  | [] =>
    refine iff_of_false (not_escapes_ok []) ?_
    rintro ⟨before, v, after, h, _⟩
    simp at h
  | x :: xs =>
    unfold StopsAt
    rw [ofValues, escapes_cons_iff, exists_split_cons_iff, escapes_ofValue_iff x,
      escapes_ofValues_iff xs]
    rfl
termination_by structural xs

end

end Field

end Intake
