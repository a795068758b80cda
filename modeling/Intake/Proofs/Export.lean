import Intake.Submission.Object
import Intake.Proofs.Definitions

/-! The object of a submission against the values that the check of the form looks at. The object
takes the last answer of a slug and the check the first, and the check looks for a slug among the
fields of all levels. They agree where at every level reached the last answer of a slug is worth
what is found for a field of that very level. -/

namespace Intake

variable {names : Pattern.Names}

namespace Value

theorem mem_setEntry_iff {α : Type} {k : Value} {entries : List (Value × α)} (hk : k.IsText)
    (hnodup : (entries.map (·.1)).Nodup) (k' : Value) (x x' : α) :
    (k', x') ∈ setEntry k x entries ↔ k' = k ∧ x' = x ∨ k' ≠ k ∧ (k', x') ∈ entries := by
  induction entries with
  | nil => simp [setEntry]
  | cons e entries ih =>
    obtain ⟨key, y⟩ := e
    rw [List.map_cons, List.nodup_cons] at hnodup
    obtain ⟨hfresh, hnodup⟩ := hnodup
    have hnot : ∀ z, (key, z) ∉ entries := fun z hz => hfresh (List.mem_map.2 ⟨_, hz, rfl⟩)
    unfold setEntry
    split
    · rename_i heq
      obtain rfl := hk.equal_iff.1 heq
      rw [List.mem_cons, List.mem_cons, Prod.mk.injEq, Prod.mk.injEq]
      by_cases hkey : k' = key
      · subst hkey
        simp [hnot]
      · simp [hkey]
    · rename_i hne
      have hne : key ≠ k := fun heq => hne (hk.equal_iff.2 heq)
      rw [List.mem_cons, ih hnodup, List.mem_cons, Prod.mk.injEq]
      by_cases hkey : k' = k
      · subst hkey
        simp [hne.symm]
      · simp [hkey]

theorem nodup_setEntry {α : Type} {k : Value} {x : α} {entries : List (Value × α)}
    (hk : k.IsText) (hnodup : (entries.map (·.1)).Nodup) :
    ((setEntry k x entries).map (·.1)).Nodup := by
  induction entries with
  | nil => simp [setEntry]
  | cons e entries ih =>
    rw [List.map_cons, List.nodup_cons] at hnodup
    unfold setEntry
    split
    · exact List.nodup_cons.2 hnodup
    · rename_i hne
      refine List.nodup_cons.2 ⟨fun hmem => ?_, ih hnodup.2⟩
      rcases mem_keys_setEntry hmem with heq | hmem
      · exact hne (hk.equal_iff.2 heq)
      · exact hnodup.1 hmem

theorem isIn_of_elements? {container : Value} {xs : List Value}
    (h : container.elements? = some xs) (v : Value) : v.isIn container = .ok (xs.any v.equal) := by
  cases container with
  | list ys | tuple ys =>
    obtain rfl := Option.some.inj h
    rfl
  | _ => cases h

end Value

namespace Answer

def IsLast (answers : List Answer) (a : Answer) : Prop :=
  ∃ before after, answers = before ++ a :: after ∧ ∀ b ∈ after, b.slug ≠ a.slug

theorem isLast_cons_iff {answers : List Answer} {a b : Answer} :
    IsLast (b :: answers) a ↔
      IsLast answers a ∨ b = a ∧ ∀ b' ∈ answers, b'.slug ≠ a.slug := by
  constructor
  · rintro ⟨before, after, heq, hafter⟩
    cases before with
    | nil =>
      obtain ⟨rfl, rfl⟩ := List.cons.inj heq
      exact .inr ⟨rfl, hafter⟩
    | cons b' before =>
      obtain ⟨rfl, rfl⟩ := List.cons.inj heq
      exact .inl ⟨before, after, rfl, hafter⟩
  · rintro (⟨before, after, rfl, hafter⟩ | ⟨rfl, hafter⟩)
    · exact ⟨b :: before, after, rfl, hafter⟩
    · exact ⟨[], answers, rfl, hafter⟩

theorem IsLast.mem {answers : List Answer} {a : Answer} (h : IsLast answers a) : a ∈ answers := by
  obtain ⟨before, after, rfl, _⟩ := h
  simp

theorem not_isLast_nil {a : Answer} : ¬ IsLast [] a := by
  rintro ⟨before, after, heq, _⟩
  cases before <;> cases heq

theorem isLast_iff_mem {answers : List Answer} (h : (answers.map (·.slug)).Nodup) {a : Answer} :
    IsLast answers a ↔ a ∈ answers := by
  induction answers with
  | nil => exact iff_of_false not_isLast_nil List.not_mem_nil
  | cons b answers ih =>
    rw [List.map_cons, List.nodup_cons] at h
    obtain ⟨hfresh, hrest⟩ := h
    rw [isLast_cons_iff, ih hrest, List.mem_cons, or_comm]
    refine or_congr_left ⟨fun hb => hb.1.symm, ?_⟩
    rintro rfl
    exact ⟨rfl, fun b' hb' heq => hfresh (List.mem_map.2 ⟨b', hb', heq⟩)⟩

theorem exists_isLast {answers : List Answer} {s : Value} (h : ∃ a ∈ answers, a.slug = s) :
    ∃ b, IsLast answers b ∧ b.slug = s := by
  induction answers with
  | nil =>
    obtain ⟨a, ha, _⟩ := h
    cases ha
  | cons b answers ih =>
    by_cases hlater : ∃ a ∈ answers, a.slug = s
    · obtain ⟨d, hd, hslug⟩ := ih hlater
      exact ⟨d, isLast_cons_iff.2 (.inl hd), hslug⟩
    · obtain ⟨a, ha, hslug⟩ := h
      rcases List.mem_cons.1 ha with rfl | ha
      · refine ⟨a, isLast_cons_iff.2 (.inr ⟨rfl, fun b' hb' heq => ?_⟩), hslug⟩
        exact hlater ⟨b', hb', heq.trans hslug⟩
      · exact absurd ⟨a, ha, hslug⟩ hlater

end Answer

namespace Submission

abbrev exported (v : Value) : Except Fault Value := objectValue (.tuple []) v

/-- Slugs that have no entry in an object: the empty one, and those that are excluded. -/
def LeftOut (hidden : List Value) (slug : Value) : Prop := slug = .text "" ∨ slug ∈ hidden

@[simp] theorem leftOut_nil_iff {slug : Value} : LeftOut [] slug ↔ slug = .text "" := by
  unfold LeftOut
  simp only [List.not_mem_nil, or_false]

section
variable {excluded : Value} {hidden : List Value} (hexcluded : excluded.elements? = some hidden)
include hexcluded

theorem entryOf_leftOut {s : String} (h : LeftOut hidden (.text s)) (v : Value) :
    entryOf excluded (.answer (.text s) v) = .ok none := by
  have htext : Value.IsText (.text s) := ⟨s, rfl⟩
  unfold entryOf
  rcases h with h | h
  · obtain rfl := Value.text.inj h
    rfl
  · rw [Value.isIn_of_elements? hexcluded, (htext.any_equal_iff hidden).2 h]
    cases hs : !(Value.text s).truthy <;> rfl

theorem entryOf_kept {s : String} (h : ¬ LeftOut hidden (.text s)) (v : Value) :
    entryOf excluded (.answer (.text s) v) =
      (fun w => some (.text s, w)) <$> objectValue excluded v := by
  unfold LeftOut at h
  rw [not_or] at h
  have htext : Value.IsText (.text s) := ⟨s, rfl⟩
  have htruthy : (Value.text s).truthy = true := by
    have hne : s ≠ "" := fun heq => h.1 (congrArg Value.text heq)
    exact bne_iff_ne.2 hne
  have hany : hidden.any (Value.text s).equal = false := by
    rw [Bool.eq_false_iff, ne_eq, htext.any_equal_iff]
    exact h.2
  unfold entryOf
  rw [Value.isIn_of_elements? hexcluded, hany, htruthy]
  cases objectValue excluded v <;> rfl

end

theorem objectValue_of_group? {v : Value} {inner : List Answer}
    (h : Answer.group? v = some inner) (hne : inner ≠ []) (excluded : Value) :
    objectValue excluded v =
      (fun es => .map es) <$> entriesOf excluded [] (inner.map Answer.toValue) := by
  rw [Answer.group?_eq_some_iff] at h
  rw [h, objectValue, if_pos]
  rw [Answer.all_isAnswer]
  cases inner with
  | nil => exact absurd rfl hne
  | cons a inner => rfl

theorem exists_group? {xs : List Value} (h : xs.all Value.isAnswer = true) :
    ∃ inner : List Answer, xs = inner.map Answer.toValue := by
  induction xs with
  | nil => exact ⟨[], rfl⟩
  | cons x xs ih =>
    rw [List.all_cons, Bool.and_eq_true] at h
    obtain ⟨inner, rfl⟩ := ih h.2
    cases x with
    | answer slug value => exact ⟨⟨slug, value⟩ :: inner, rfl⟩
    | _ => cases h.1

theorem objectValue_self {v : Value} (h : ∀ inner, Answer.group? v = some inner → inner = [])
    (excluded : Value) : objectValue excluded v = .ok v := by
  cases v with
  | list xs =>
    -- a list is exported as an object only when it has elements and all of them are answers
    rw [objectValue, if_neg]
    rw [Bool.and_eq_true]
    rintro ⟨hne, hall⟩
    obtain ⟨inner, rfl⟩ := exists_group? hall
    obtain rfl := h inner (Answer.group?_eq_some_iff.2 rfl)
    cases hne
  | _ => simp [objectValue]

variable {excluded : Value} {hidden : List Value}

mutual

theorem exists_objectValue (hexcluded : excluded.elements? = some hidden) (v : Value)
    (h : ∀ s ∈ Answer.slugsOfValue v, s.IsText) : ∃ w, objectValue excluded v = .ok w := by
  match v with
  | .list xs =>
    rw [objectValue]
    split
    · rename_i hall
      rw [Bool.and_eq_true] at hall
      rw [Answer.slugsOfValue, if_pos hall.2] at h
      obtain ⟨es, hes⟩ := exists_entriesOf hexcluded [] xs hall.2 h
      exact ⟨.map es, by rw [hes]; rfl⟩
    · exact ⟨_, rfl⟩
  | .null | .bool _ | .int _ | .float _ | .text _ | .bytes _ | .date _ | .moment _ | .set _
  | .tuple _ | .map _ | .answer .. | .upload .. => exact ⟨_, rfl⟩
termination_by structural v

theorem exists_entriesOf (hexcluded : excluded.elements? = some hidden)
    (before : List (Value × Value)) (xs : List Value) (hall : xs.all Value.isAnswer = true)
    (h : ∀ s ∈ Answer.slugsOfAll xs, s.IsText) : ∃ es, entriesOf excluded before xs = .ok es := by
  match xs with
  | [] => exact ⟨before, rfl⟩
  | .answer slug value :: xs =>
    rw [List.all_cons, Bool.and_eq_true] at hall
    rw [Answer.slugsOfAll, Answer.slugsIn, List.forall_mem_append, List.forall_mem_cons] at h
    obtain ⟨⟨⟨s, rfl⟩, hvalue⟩, hrest⟩ := h
    obtain ⟨w, hw⟩ := exists_objectValue hexcluded value hvalue
    rw [entriesOf]
    by_cases hs : LeftOut hidden (.text s)
    · rw [entryOf_leftOut hexcluded hs]
      exact exists_entriesOf hexcluded before xs hall.2 hrest
    · rw [entryOf_kept hexcluded hs, hw]
      exact exists_entriesOf hexcluded _ xs hall.2 hrest
  | .null :: _ | .bool _ :: _ | .int _ :: _ | .float _ :: _ | .text _ :: _ | .bytes _ :: _
  | .date _ :: _ | .moment _ :: _ | .set _ :: _ | .list _ :: _ | .tuple _ :: _ | .map _ :: _
  | .upload .. :: _ => cases hall
termination_by structural xs

end

theorem exists_toObject (hexcluded : excluded.elements? = some hidden) {answers : List Answer}
    (h : ∀ s ∈ Answer.slugs answers, s.IsText) :
    ∃ es, entriesOf excluded [] (answers.map Answer.toValue) = .ok es ∧
      toObject excluded answers = .ok (.map es) := by
  have hslugs : ∀ s ∈ Answer.slugsOfAll (answers.map Answer.toValue), s.IsText := by
    rw [Answer.slugsOfAll_map]
    exact h
  obtain ⟨es, hes⟩ := exists_entriesOf hexcluded [] (answers.map Answer.toValue)
    (Answer.all_isAnswer answers) hslugs
  refine ⟨es, hes, ?_⟩
  unfold toObject
  rw [hes]
  rfl

theorem mem_entriesOf_iff (hexcluded : excluded.elements? = some hidden) {answers : List Answer}
    (h : ∀ a ∈ answers, a.slug.IsText) {before es : List (Value × Value)}
    (hbefore : (before.map (·.1)).Nodup)
    (hes : entriesOf excluded before (answers.map Answer.toValue) = .ok es) (k w : Value) :
    (k, w) ∈ es ↔
      (∃ a, Answer.IsLast answers a ∧ a.slug = k ∧ ¬ LeftOut hidden k ∧
        objectValue excluded a.value = .ok w) ∨
      (LeftOut hidden k ∨ ∀ a ∈ answers, a.slug ≠ k) ∧ (k, w) ∈ before := by
  -- what stands before changes with every answer, and is kept except under the slugs to come
  induction answers generalizing before with
  | nil =>
    cases hes
    simp [Answer.not_isLast_nil]
  | cons a answers ih =>
    rw [List.forall_mem_cons] at h
    obtain ⟨slug, value⟩ := a
    obtain ⟨⟨s, rfl⟩, hrest⟩ := h
    rw [List.map_cons, Answer.toValue, entriesOf] at hes
    by_cases hs : LeftOut hidden (.text s)
    · rw [entryOf_leftOut hexcluded hs] at hes
      rw [ih hrest hbefore hes]
      constructor
      · rintro (⟨a, ha, hslug, hk, hw⟩ | ⟨hk, hmem⟩)
        · exact .inl ⟨a, Answer.isLast_cons_iff.2 (.inl ha), hslug, hk, hw⟩
        · refine .inr ⟨?_, hmem⟩
          by_cases hkey : LeftOut hidden k
          · exact .inl hkey
          · have hne : Value.text s ≠ k := fun heq => hkey (heq ▸ hs)
            exact .inr (List.forall_mem_cons.2 ⟨hne, hk.resolve_left hkey⟩)
      · rintro (⟨a, ha, hslug, hk, hw⟩ | ⟨hk, hmem⟩)
        · rcases Answer.isLast_cons_iff.1 ha with ha | ⟨rfl, _⟩
          · exact .inl ⟨a, ha, hslug, hk, hw⟩
          · exact absurd (hslug ▸ hs) hk
        · exact .inr ⟨hk.imp_right fun h => (List.forall_mem_cons.1 h).2, hmem⟩
    · rw [entryOf_kept hexcluded hs] at hes
      obtain ⟨_, hentry, hes⟩ := bind_eq_ok.1 hes
      rw [map_eq_pure_bind] at hentry
      obtain ⟨w', hw', hentry⟩ := bind_eq_ok.1 hentry
      cases hentry
      have hset := Value.mem_setEntry_iff ⟨s, rfl⟩ hbefore k w' w
      rw [ih hrest (Value.nodup_setEntry ⟨s, rfl⟩ hbefore) hes, hset]
      constructor
      · rintro (⟨a, ha, hslug, hk, hw⟩ | ⟨hk, ⟨rfl, rfl⟩ | ⟨hkey, hmem⟩⟩)
        · exact .inl ⟨a, Answer.isLast_cons_iff.2 (.inl ha), hslug, hk, hw⟩
        · have hlast := hk.resolve_left hs
          exact .inl ⟨_, Answer.isLast_cons_iff.2 (.inr ⟨rfl, hlast⟩), rfl, hs, hw'⟩
        · exact .inr ⟨hk.imp_right fun h => List.forall_mem_cons.2 ⟨Ne.symm hkey, h⟩, hmem⟩
      · rintro (⟨a, ha, hslug, hk, hw⟩ | ⟨hk, hmem⟩)
        · rcases Answer.isLast_cons_iff.1 ha with ha | ⟨rfl, hlast⟩
          · exact .inl ⟨a, ha, hslug, hk, hw⟩
          · subst hslug
            exact .inr ⟨.inr hlast, .inl ⟨rfl, Except.ok.inj (hw.symm.trans hw')⟩⟩
        · refine .inr ⟨hk.imp_right fun h => (List.forall_mem_cons.1 h).2, .inr ⟨?_, hmem⟩⟩
          rcases hk with hk | hk
          · exact fun heq => hs (heq ▸ hk)
          · exact Ne.symm (hk _ List.mem_cons_self)

end Submission

/-- Slugs are texts that are not empty, and at every depth siblings have different ones. -/
def Field.Named (fields : List Field) : Prop :=
  ∀ siblings, Layer fields siblings → (siblings.map Field.slug).Nodup ∧
    ∀ f ∈ siblings, ∃ s, f.slug = .text s ∧ s ≠ ""

namespace Level
open Submission Validation

theorem induction_below {p : Level → Prop}
    (h : ∀ l, (∀ a children, .group a children ∈ l.fields → p (l.below a children)) → p l)
    (l : Level) : p l :=
  h l fun a children _hg => induction_below h (l.below a children)
termination_by sizeOf l.fields
decreasing_by
  have hlt := List.sizeOf_lt_of_mem _hg
  rw [Field.group.sizeOf_spec] at hlt
  show sizeOf children < sizeOf l.fields
  omega

variable (uploads : List Upload)

/-- An entry of an object stands at the place of a declared field and holds the value found for it:
that value itself, or the object of the answers in it where the field is a group. -/
inductive CheckedEntry : Level → Value × Value → Prop
  | plain {l : Level} {f : Field} (hf : f ∈ l.fields)
      (hv : ∀ inner, Answer.group? (l.value uploads f) = some inner → inner = []) :
      CheckedEntry l (f.slug, l.value uploads f)
  | nested {l : Level} {a : Attributes} {children : List Field} {inner : List Answer}
      {es : List (Value × Value)} (hg : .group a children ∈ l.fields)
      (hv : Answer.group? (l.value uploads (.group a children)) = some inner) (hne : inner ≠ [])
      (hes : entriesOf (.tuple []) [] (inner.map Answer.toValue) = .ok es)
      (h : ∀ e ∈ es, CheckedEntry (l.below a children) e) :
      CheckedEntry l (a.slug, .map es)

/-- The last answer of every slug is worth what is found for a field of the level with that slug,
and only for groups are answers found. -/
def Settled (l : Level) : Prop :=
  ∀ a, Answer.IsLast l.answers a → a.slug ≠ .text "" →
    ∃ f ∈ l.fields, f.slug = a.slug ∧ exported a.value = exported (l.value uploads f) ∧
      (f.isGroup = false → ∀ inner, Answer.group? (l.value uploads f) = some inner → inner = [])

variable {uploads}

theorem exists_answer_of_inner {l : Level} {a : Attributes} {children : List Field}
    {inner : List Answer}
    (hv : Answer.group? (l.value uploads (.group a children)) = some inner)
    (htext : a.slug.IsText) :
    ∃ b ∈ l.answers, b.slug = a.slug ∧ Answer.group? b.value = some inner := by
  obtain ⟨s, hs⟩ := htext
  unfold value locate at hv
  rw [if_neg (by simp [Field.isFile])] at hv
  cases hfind : l.answers.find? fun b => b.slug.equal (Field.group a children).slug with
  | none => simp [hfind, Answer.group?] at hv
  | some b =>
    rw [hfind] at hv
    have hequal := List.find?_some hfind
    simp only [Field.slug, Field.attributes, hs, Value.equal_text_iff] at hequal
    exact ⟨b, List.mem_of_find?_eq_some hfind, hequal.trans hs.symm, hv⟩

theorem eq_of_slug_eq {fields : List Field} (h : (fields.map Field.slug).Nodup) {f g : Field}
    (hf : f ∈ fields) (hg : g ∈ fields) (heq : f.slug = g.slug) : f = g := by
  induction fields with
  | nil => cases hf
  | cons d fields ih =>
    rw [List.map_cons, List.nodup_cons] at h
    rcases List.mem_cons.1 hf with rfl | hf' <;> rcases List.mem_cons.1 hg with rfl | hg'
    · rfl
    · exact absurd (List.mem_map.2 ⟨g, hg', heq.symm⟩) h.1
    · exact absurd (List.mem_map.2 ⟨f, hf', heq⟩) h.1
    · exact ih h.2 hf' hg'

theorem mem_entries_iff {l : Level} (h : ∀ s ∈ Answer.slugs l.answers, s.IsText)
    {es : List (Value × Value)}
    (hes : entriesOf (.tuple []) [] (l.answers.map Answer.toValue) = .ok es) (k w : Value) :
    (k, w) ∈ es ↔
      ∃ a, Answer.IsLast l.answers a ∧ a.slug = k ∧ k ≠ .text "" ∧ exported a.value = .ok w := by
  have hslugs : ∀ a ∈ l.answers, a.slug.IsText := fun a ha => h _ (Answer.slug_mem_slugs ha)
  have hnodup : (([] : List (Value × Value)).map (·.1)).Nodup := List.nodup_nil
  rw [mem_entriesOf_iff rfl hslugs hnodup hes]
  simp only [leftOut_nil_iff, List.not_mem_nil, and_false, or_false]

theorem CheckedEntry.of_group {l : Level} {k w : Value} (h : CheckedEntry uploads l (k, w))
    (hdistinct : (l.fields.map Field.slug).Nodup) {a : Attributes} {children : List Field}
    {inner : List Answer} (hg : .group a children ∈ l.fields) (hk : k = a.slug)
    (hv : Answer.group? (l.value uploads (.group a children)) = some inner) (hne : inner ≠ []) :
    ∃ es, entriesOf (.tuple []) [] (inner.map Answer.toValue) = .ok es ∧
      ∀ e ∈ es, CheckedEntry uploads (l.below a children) e := by
  generalize heq : (k, w) = e at h
  cases h with
  | @plain l f hf hplain =>
    obtain ⟨hslug, -⟩ := Prod.mk.inj heq
    obtain rfl : f = .group a children := eq_of_slug_eq hdistinct hf hg (hslug.symm.trans hk)
    exact absurd (hplain inner hv) hne
  | @nested l a' children' inner' es hg' hv' _ hes hentries =>
    obtain ⟨hslug, -⟩ := Prod.mk.inj heq
    obtain ⟨rfl, rfl⟩ := Field.group.inj
      (eq_of_slug_eq hdistinct hg' hg (show a'.slug = a.slug from hslug.symm.trans hk))
    obtain rfl := Option.some.inj (hv'.symm.trans hv)
    exact ⟨es, hes, hentries⟩

@[simp]
theorem answers_below (uploads : List Upload) {l : Level} {a : Attributes} {children : List Field} :
    (l.below a children).answers =
      (Answer.group? (l.value uploads (.group a children))).getD [] := rfl

theorem CheckedEntry.found {l : Level} {k w : Value} (h : CheckedEntry uploads l (k, w)) :
    ∃ f ∈ l.fields, f.slug = k ∧ exported (l.value uploads f) = .ok w ∧
      (f.isGroup = false → ∀ inner,
        Answer.group? (l.value uploads f) = some inner → inner = []) := by
  generalize heq : (k, w) = e at h
  cases h with
  | @plain l f hf hplain =>
    obtain ⟨rfl, rfl⟩ := Prod.mk.inj heq
    exact ⟨f, hf, rfl, objectValue_self hplain _, fun _ => hplain⟩
  | @nested l a children inner es hg hv hne hes _ =>
    obtain ⟨rfl, rfl⟩ := Prod.mk.inj heq
    refine ⟨_, hg, rfl, ?_, nofun⟩
    rw [exported, objectValue_of_group? hv hne, hes]
    rfl

theorem checkedEntry_of_found {l : Level} {f : Field} (hf : f ∈ l.fields) {w : Value}
    (hw : exported (l.value uploads f) = .ok w)
    (hgroup : f.isGroup = false → ∀ inner,
      Answer.group? (l.value uploads f) = some inner → inner = [])
    (hbelow : ∀ a children, .group a children ∈ l.fields → ∀ es,
      entriesOf (.tuple []) [] ((l.below a children).answers.map Answer.toValue) = .ok es →
        ∀ e ∈ es, CheckedEntry uploads (l.below a children) e) :
    CheckedEntry uploads l (f.slug, w) := by
  by_cases hplain : ∀ inner, Answer.group? (l.value uploads f) = some inner → inner = []
  · rw [exported, objectValue_self hplain] at hw
    obtain rfl := Except.ok.inj hw
    exact .plain hf hplain
  · simp only [Classical.not_forall, exists_prop] at hplain
    obtain ⟨inner, hv, hne⟩ := hplain
    match f with
    | .group a children =>
      rw [exported, objectValue_of_group? hv hne, map_eq_pure_bind] at hw
      obtain ⟨es, hes, hw⟩ := bind_eq_ok.1 hw
      obtain rfl := Except.ok.inj hw
      refine .nested hf hv hne hes (hbelow a children hf es ?_)
      rw [answers_below uploads, hv]
      exact hes
    | .leaf .. | .unknown .. | .select .. => exact absurd (hgroup rfl inner hv) hne

theorem exists_exported_of_mem {l : Level} (htexts : ∀ s ∈ Answer.slugs l.answers, s.IsText)
    {a : Answer} (ha : a ∈ l.answers) : ∃ w, exported a.value = .ok w := by
  refine exists_objectValue rfl _ fun s hs => htexts s (List.mem_flatMap.2 ⟨a, ha, ?_⟩)
  exact List.mem_cons_of_mem _ hs

theorem checked_below {l : Level} (hnamed : Field.Named l.fields)
    (htexts : ∀ s ∈ Answer.slugs l.answers, s.IsText) {es : List (Value × Value)}
    (hes : entriesOf (.tuple []) [] (l.answers.map Answer.toValue) = .ok es)
    (hchecked : ∀ e ∈ es, CheckedEntry uploads l e) {a : Attributes} {children : List Field}
    (hg : .group a children ∈ l.fields) :
    ∃ es', entriesOf (.tuple []) [] ((l.below a children).answers.map Answer.toValue) = .ok es' ∧
      ∀ e ∈ es', CheckedEntry uploads (l.below a children) e := by
  obtain ⟨hdistinct, hslugs⟩ := hnamed l.fields (.top l.fields)
  obtain ⟨s, hs, hne⟩ := hslugs _ hg
  rw [answers_below uploads]
  cases hv : Answer.group? (l.value uploads (.group a children)) with
  | none => exact ⟨[], rfl, by simp⟩
  | some inner =>
    by_cases hinner : inner = []
    · subst hinner
      exact ⟨[], rfl, by simp⟩
    -- some answer holds the answers to the group, so that the object has an entry for it
    · obtain ⟨b', hb', hslug', _⟩ := exists_answer_of_inner hv ⟨s, hs⟩
      obtain ⟨b, hb, hslug⟩ := Answer.exists_isLast ⟨b', hb', hslug'⟩
      obtain ⟨w, hw⟩ := exists_exported_of_mem htexts hb.mem
      have hkey : b.slug ≠ .text "" := by
        rw [hslug]
        exact fun h => hne (Value.text.inj (hs.symm.trans h))
      have hmem := (mem_entries_iff htexts hes b.slug w).2 ⟨b, hb, rfl, hkey, hw⟩
      exact (hchecked _ hmem).of_group hdistinct hg hslug hv hinner

/-- All entries are checked exactly where every level reached is settled. -/
theorem checked_iff {l : Level} (hnamed : Field.Named l.fields)
    (htexts : ∀ s ∈ Answer.slugs l.answers, s.IsText) {es : List (Value × Value)}
    (hes : entriesOf (.tuple []) [] (l.answers.map Answer.toValue) = .ok es) :
    (∀ e ∈ es, CheckedEntry uploads l e) ↔ ∀ m, l.Reaches m → m.Settled uploads := by
  induction l using induction_below generalizing es with
  | h l ih =>
    have hmem := mem_entries_iff htexts hes
    have hih : ∀ a children, .group a children ∈ l.fields → ∀ es,
        entriesOf (.tuple []) [] ((l.below a children).answers.map Answer.toValue) = .ok es →
        ((∀ e ∈ es, CheckedEntry uploads (l.below a children) e) ↔
          ∀ m, (l.below a children).Reaches m → m.Settled uploads) := by
      intro a children hg es hes
      exact ih a children hg (fun siblings hs => hnamed siblings (.inside hg hs))
        (fun s hs => htexts s (l.slugs_below_subset a children hs)) hes
    rw [forall_reaches_iff]
    constructor
    · intro hchecked
      constructor
      · intro a ha hne
        obtain ⟨w, hw⟩ := exists_exported_of_mem htexts ha.mem
        obtain ⟨f, hf, hslug, hfound, hgroup⟩ :=
          (hchecked _ ((hmem a.slug w).2 ⟨a, ha, rfl, hne, hw⟩)).found
        exact ⟨f, hf, hslug, hw.trans hfound.symm, hgroup⟩
      · intro a children hg
        obtain ⟨es', hes', hentries⟩ := checked_below hnamed htexts hes hchecked hg
        exact (hih a children hg es' hes').1 hentries
    · rintro ⟨hsettled, hbelow⟩ ⟨k, w⟩ he
      obtain ⟨a, ha, rfl, hne, hw⟩ := (hmem k w).1 he
      obtain ⟨f, hf, hslug, heq, hgroup⟩ := hsettled a ha hne
      rw [← hslug]
      refine checkedEntry_of_found hf (heq.symm.trans hw) hgroup fun b children hg es' hes' => ?_
      exact (hih b children hg es' hes').2 (hbelow b children hg)

end Level

theorem Definition.AcceptsAll.named {root : Bool} {fields : List Field}
    (h : AcceptsAll names root [] fields) : Field.Named fields := by
  refine fun siblings hs => ⟨h.distinct hs, fun f hf => ?_⟩
  obtain ⟨s, hslug, hne, _⟩ := (h.wellFormed hs f hf).slug
  exact ⟨s, hslug, hne⟩

namespace Submission

/-- With a form that is accepted, every submission whose slugs are texts has an object, a valid one
or not. All entries of the object, at every depth, stand at the place of a declared field and hold
the value found for it exactly where every level reached is settled. -/
theorem toObject_checked_iff {fields : List Field} {report : Report}
    (haccepted : Definition.checkFields names true fields = .ok report)
    (hvalid : report.isValid = true)
    (answers : List Answer) (uploads : List Upload)
    (htexts : ∀ s ∈ Answer.slugs answers, s.IsText) :
    ∃ es, toObject (.tuple []) answers = .ok (.map es) ∧
      ((∀ e ∈ es, Level.CheckedEntry uploads ⟨fields, answers⟩ e) ↔
        ∀ m, Level.Reaches ⟨fields, answers⟩ m → m.Settled uploads) := by
  have haccepts := Definition.accepts_of_checkFields haccepted hvalid
  have hnone : (Value.tuple []).elements? = some [] := rfl
  obtain ⟨es, hes, hobject⟩ := exists_toObject hnone htexts
  exact ⟨es, hobject, Level.checked_iff haccepts.named htexts hes⟩

def fewField : Field :=
  .leaf .text (.ofRules "few" [(.number, .options ⟨.number .null (.int 5), []⟩)])

def fewAnswers : List Answer := [⟨.text "few", .int 1⟩, ⟨.text "few", .int 100⟩]

/-- The submission is valid, and the object holds the number that was not checked. -/
theorem toObject_checked_iff_few :
    ((Validation.check .newYear fewAnswers [fewField] []).outcome (.start [])).1.toOption.map
        Report.isValid = some true ∧
      ∃ es, toObject (.tuple []) fewAnswers = .ok (.map es) ∧
        ¬ ∀ e ∈ es, Level.CheckedEntry [] ⟨[fewField], fewAnswers⟩ e := by
  have haccepted : (Definition.checkFields .none true [fewField]).toOption.map Report.isValid =
      some true := by decide +kernel
  obtain ⟨report, hreport, hvalid⟩ := exists_of_toOption haccepted
  have htexts : ∀ s ∈ Answer.slugs fewAnswers, s.IsText := by
    intro s hs
    simp only [fewAnswers, Answer.slugs, Answer.slugsOfValue, List.flatMap_cons, List.flatMap_nil,
      List.cons_append, List.nil_append, List.mem_cons, List.not_mem_nil, or_false, or_self] at hs
    exact ⟨_, hs⟩
  obtain ⟨es, hes, hiff⟩ := toObject_checked_iff hreport hvalid fewAnswers [] htexts
  refine ⟨by decide +kernel, es, hes, fun hchecked => ?_⟩
  have hlast : Answer.IsLast fewAnswers ⟨.text "few", .int 100⟩ := ⟨[_], [], rfl, by simp⟩
  obtain ⟨f, hf, _, hfound, _⟩ := hiff.1 hchecked _ (.here _) _ hlast (by simp)
  obtain rfl := List.mem_singleton.1 hf
  have hint : exported (.int 100) = exported (.int 1) := hfound
  cases hint

end Submission

end Intake
