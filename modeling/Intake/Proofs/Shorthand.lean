import Intake.Field.Shorthand
import Intake.Proofs.Unreportable

/-! The short form of choices. Expanding it changes nothing but what the selects in a document list
as their options, leaves nothing to expand, and does not change what is read from a document that
can be read as it is. -/

namespace Intake
open Value

namespace Value

@[simp, grind =]
theorem field?_setEntry_self (name : String) (v : Value) (es : List (Value × Value)) :
    field? name (setEntry (.text name) v es) = some v := by
  induction es with
  | nil => exact field?_cons_self name v []
  | cons e es ih =>
    obtain ⟨k, w⟩ := e
    unfold setEntry
    by_cases hk : (text name).equal k = true
    · rw [if_pos hk, field?_cons, if_pos hk]
    · rw [if_neg hk, field?_cons, if_neg hk, ih]

theorem field?_setEntry_of_ne {name other : String} (h : name ≠ other) (v : Value)
    (es : List (Value × Value)) : field? name (setEntry (.text other) v es) = field? name es := by
  have hother : ∀ k : Value, (text other).equal k = true → ¬ (text name).equal k = true := by
    intro k hk hname
    obtain rfl := text_equal_iff.1 hk
    exact h (text.inj (text_equal_iff.1 hname)).symm
  induction es with
  | nil => exact field?_cons_of_ne h v []
  | cons e es ih =>
    obtain ⟨k, w⟩ := e
    unfold setEntry
    by_cases hk : (text other).equal k = true
    · rw [if_pos hk, field?_cons, field?_cons, if_neg (hother k hk), if_neg (hother k hk)]
    · rw [if_neg hk, field?_cons, field?_cons, ih]

@[simp, grind =]
theorem setEntry_setEntry (name : String) (v w : Value) (es : List (Value × Value)) :
    setEntry (.text name) w (setEntry (.text name) v es) = setEntry (.text name) w es := by
  induction es with
  | nil =>
    have hself : (text name).equal (text name) = true := text_equal_iff.2 rfl
    simp [setEntry, hself]
  | cons e es ih =>
    obtain ⟨k, x⟩ := e
    by_cases hk : (text name).equal k = true
    · simp [setEntry, hk]
    · simp [setEntry, hk, ih]

def Lacks (name : String) (es : List (Value × Value)) : Prop :=
  ∀ e ∈ es, ¬ (text name).equal e.1 = true

end Value

namespace Field.Shorthand

/-- Two documents differ in nothing but the options of selects that stand in them, each at the top
or in the list of fields of a group that does. -/
inductive SameButOptions : Value → Value → Prop
  | refl (v : Value) : SameButOptions v v
  | select {es : List (Value × Value)} (h : hasType "select" es = true) (options : Value) :
      SameButOptions (.map es) (.map (setEntry (.text "options") options es))
  | group {before after : List (Value × Value)} {xs ys : List Value}
    (hfirst : Lacks "fields" before)
      (h : hasType "group" (before ++ (.text "fields", .list xs) :: after) = true)
      (hfields : List.Forall₂ SameButOptions xs ys) :
      SameButOptions (.map (before ++ (.text "fields", .list xs) :: after))
        (.map (before ++ (.text "fields", .list ys) :: after))

section
variable {es : List (Value × Value)}

@[simp]
theorem hasType_iff {name : String} : hasType name es = true ↔ fieldD "type" es = .text name :=
  equal_text_iff

theorem hasType_congr {name : String} {es' : List (Value × Value)}
    (h : field? "type" es' = field? "type" es) : hasType name es' = hasType name es := by
  unfold hasType fieldD
  rw [h]

theorem not_select_of_group (h : hasType "group" es = true) : ¬ hasType "select" es = true := by
  intro hselect
  rw [hasType_iff] at h hselect
  rw [h] at hselect
  exact absurd (text.inj hselect) (by decide)

theorem expand_of_select (h : hasType "select" es = true) : expand (.map es) =
    .map (setEntry (.text "options") (longChoices (fieldD "options" es)) es) := by
  have hgroup : ¬ hasType "group" es = true := fun hg => not_select_of_group hg h
  rw [expand, if_neg hgroup, if_pos h]

theorem expand_of_group (h : hasType "group" es = true) :
    expand (.map es) = .map (expandChildren es) := by
  have hselect : ¬ hasType "select" es = true := not_select_of_group h
  rw [expand, if_neg hselect, if_pos h]

theorem expand_of_neither (hselect : ¬ hasType "select" es = true)
    (hgroup : ¬ hasType "group" es = true) : expand (.map es) = .map es := by
  rw [expand, if_neg hselect, if_neg hgroup]

end

theorem field?_expandChildren {name : String} (h : name ≠ "fields") (es : List (Value × Value)) :
    field? name (expandChildren es) = field? name es := by
  induction es with
  | nil => rfl
  | cons e es ih =>
    obtain ⟨k, v⟩ := e
    unfold expandChildren
    by_cases hk : (text "fields").equal k = true
    · obtain rfl := text_equal_iff.1 hk
      rw [if_pos hk, field?_cons_of_ne h, field?_cons_of_ne h]
    · rw [if_neg hk, field?_cons, field?_cons, ih]

@[simp] theorem fieldD_fields_expandChildren (es : List (Value × Value)) :
    fieldD "fields" (expandChildren es) = expandList (fieldD "fields" es) := by
  unfold fieldD
  induction es with
  | nil => rfl
  | cons e es ih =>
    obtain ⟨k, v⟩ := e
    unfold expandChildren
    by_cases hk : (text "fields").equal k = true
    · rw [if_pos hk, field?_cons, field?_cons, if_pos hk, if_pos hk]
      rfl
    · rw [if_neg hk, field?_cons, field?_cons, if_neg hk, if_neg hk, ih]

@[simp] theorem hasType_expandChildren (name : String) (es : List (Value × Value)) :
    hasType name (expandChildren es) = hasType name es :=
  hasType_congr (field?_expandChildren (by decide) es)

@[simp] theorem hasType_setOptions (name : String) (options : Value) (es : List (Value × Value)) :
    hasType name (setEntry (.text "options") options es) = hasType name es :=
  hasType_congr (field?_setEntry_of_ne (by decide) options es)

theorem longChoices_of_maps {xs : List Value} (h : ∀ x ∈ xs, x.isMap = true) :
    longChoices (.list xs) = .list xs := by
  have hlong : xs.map longChoice = xs.map id := List.map_congr_left fun x hx => if_pos (h x hx)
  rw [longChoices, hlong, List.map_id]

@[simp] theorem isMap_longChoice (v : Value) : (longChoice v).isMap = true := by
  unfold longChoice
  by_cases h : v.isMap = true
  · rwa [if_pos h]
  · rw [if_neg h]
    rfl

@[simp, grind =]
theorem longChoices_longChoices (v : Value) : longChoices (longChoices v) = longChoices v := by
  have hmaps : ∃ xs, longChoices v = .list xs ∧ ∀ x ∈ xs, x.isMap = true := by
    cases v with
    | list xs => exact ⟨_, rfl, List.forall_mem_map.2 fun x _ => isMap_longChoice x⟩
    | _ => exact ⟨[], rfl, List.forall_mem_nil _⟩
  obtain ⟨xs, hxs, h⟩ := hmaps
  rw [hxs, longChoices_of_maps h]

mutual

/-- What is in the long form has no longer one. -/
@[simp, grind =] theorem expand_expand (v : Value) : expand (expand v) = expand v := by
  match v with
  | .map es =>
    by_cases hgroup : hasType "group" es = true
    · have hagain := (hasType_expandChildren "group" es).trans hgroup
      rw [expand_of_group hgroup, expand_of_group hagain, expandChildren_expandChildren es]
    by_cases hselect : hasType "select" es = true
    · have hagain :=
        (hasType_setOptions "select" (longChoices (fieldD "options" es)) es).trans hselect
      rw [expand_of_select hselect, expand_of_select hagain, setEntry_setEntry]
      unfold fieldD
      rw [field?_setEntry_self, Option.getD_some, longChoices_longChoices]
    · rw [expand_of_neither hselect hgroup, expand_of_neither hselect hgroup]
  | .null | .bool _ | .int _ | .float _ | .text _ | .bytes _ | .list _ | .tuple _ | .date _
  | .moment _ | .set _ | .answer _ _ | .upload _ _ _ _ _ => rfl
termination_by structural v

@[simp, grind =] theorem expandChildren_expandChildren (es : List (Value × Value)) :
    expandChildren (expandChildren es) = expandChildren es := by
  match es with
  | [] => rfl
  | (k, v) :: es =>
    by_cases hk : (text "fields").equal k = true
    · rw [expandChildren, if_pos hk, expandChildren, if_pos hk, expandList_expandList v]
    · rw [expandChildren, if_neg hk, expandChildren, if_neg hk, expandChildren_expandChildren es]
termination_by structural es

@[simp, grind =]
theorem expandList_expandList (v : Value) : expandList (expandList v) = expandList v := by
  match v with
  | .list xs => exact congrArg Value.list (expandAll_expandAll xs)
  | .null | .bool _ | .int _ | .float _ | .text _ | .bytes _ | .map _ | .tuple _ | .date _
  | .moment _ | .set _ | .answer _ _ | .upload _ _ _ _ _ => rfl
termination_by structural v

@[simp, grind =]
theorem expandAll_expandAll (xs : List Value) : expandAll (expandAll xs) = expandAll xs := by
  match xs with
  | [] => rfl
  | x :: xs =>
    simp only [expandAll]
    rw [expand_expand x, expandAll_expandAll xs]
termination_by structural xs

end

def SameButFields (es es' : List (Value × Value)) : Prop :=
  es' = es ∨ ∃ before xs ys after, Lacks "fields" before ∧
    es = before ++ (.text "fields", .list xs) :: after ∧
    es' = before ++ (.text "fields", .list ys) :: after ∧ List.Forall₂ SameButOptions xs ys

theorem SameButFields.cons {k v : Value} {es es' : List (Value × Value)} (h : SameButFields es es')
    (hk : ¬ (text "fields").equal k = true) : SameButFields ((k, v) :: es) ((k, v) :: es') := by
  rcases h with rfl | ⟨before, xs, ys, after, hbefore, rfl, rfl, hsame⟩
  · exact .inl rfl
  · have hlacks : Lacks "fields" ((k, v) :: before) := List.forall_mem_cons.2 ⟨hk, hbefore⟩
    exact .inr ⟨(k, v) :: before, xs, ys, after, hlacks, rfl, rfl, hsame⟩

mutual

theorem same_expand (v : Value) : SameButOptions v (expand v) := by
  match v with
  | .map es =>
    by_cases hgroup : hasType "group" es = true
    · rw [expand_of_group hgroup]
      rcases same_expandChildren es with heq | ⟨before, xs, ys, after, hbefore, hes, heq, hsame⟩
      · rw [heq]
        exact .refl _
      · rw [heq, hes]
        rw [hes] at hgroup
        exact .group hbefore hgroup hsame
    by_cases hselect : hasType "select" es = true
    · rw [expand_of_select hselect]
      exact .select hselect _
    · rw [expand_of_neither hselect hgroup]
      exact .refl _
  | .null | .bool _ | .int _ | .float _ | .text _ | .bytes _ | .list _ | .tuple _ | .date _
  | .moment _ | .set _ | .answer _ _ | .upload _ _ _ _ _ => exact .refl _
termination_by structural v

theorem same_expandChildren (es : List (Value × Value)) : SameButFields es (expandChildren es) := by
  match es with
  | [] => exact .inl rfl
  | (k, v) :: es =>
    unfold expandChildren
    by_cases hk : (text "fields").equal k = true
    · rw [if_pos hk]
      obtain rfl := text_equal_iff.1 hk
      rcases same_expandList v with heq | ⟨xs, ys, rfl, heq, hsame⟩
      · rw [heq]
        exact .inl rfl
      · rw [heq]
        exact .inr ⟨[], xs, ys, es, nofun, rfl, rfl, hsame⟩
    · rw [if_neg hk]
      exact (same_expandChildren es).cons hk
termination_by structural es

theorem same_expandList (v : Value) : expandList v = v ∨
    ∃ xs ys, v = .list xs ∧ expandList v = .list ys ∧ List.Forall₂ SameButOptions xs ys := by
  match v with
  | .list xs => exact .inr ⟨xs, _, rfl, rfl, same_expandAll xs⟩
  | .null | .bool _ | .int _ | .float _ | .text _ | .bytes _ | .map _ | .tuple _ | .date _
  | .moment _ | .set _ | .answer _ _ | .upload _ _ _ _ _ => exact .inl rfl
termination_by structural v

theorem same_expandAll (xs : List Value) : List.Forall₂ SameButOptions xs (expandAll xs) := by
  match xs with
  | [] => exact .nil
  | x :: xs => exact .cons (same_expand x) (same_expandAll xs)
termination_by structural xs

end

end Field.Shorthand

theorem Attributes.ofEntries_congr {es es' : List (Value × Value)}
    (h : ∀ name, name ≠ "options" → name ≠ "fields" → field? name es' = field? name es) :
    Attributes.ofEntries es' = Attributes.ofEntries es := by
  unfold Attributes.ofEntries fieldD
  rw [h "slug" (by decide) (by decide), h "validators" (by decide) (by decide),
    h "suggestions" (by decide) (by decide), h "displayName" (by decide) (by decide),
    h "description" (by decide) (by decide), h "placeholderValue" (by decide) (by decide),
    h "initialValue" (by decide) (by decide), h "allowMultiple" (by decide) (by decide),
    h "public" (by decide) (by decide)]

theorem Choice.isMap_of_mapM {xs : List Value} {choices : List Choice}
    (h : xs.mapM Choice.ofValue = .ok choices) : ∀ x ∈ xs, x.isMap = true := by
  induction xs generalizing choices with
  | nil => exact List.forall_mem_nil _
  | cons x xs ih =>
    rw [List.mapM_cons] at h
    obtain ⟨choice, hx, h⟩ := bind_eq_ok.1 h
    obtain ⟨rest, hxs, _⟩ := bind_eq_ok.1 h
    exact List.forall_mem_cons.2 ⟨Choice.exists_ofValue_iff.1 ⟨choice, hx⟩, ih hxs⟩

namespace Field
open Shorthand

theorem longChoices_of_read {refuse : DefinitionCause} {given : Value} {raw : List Value}
    {choices : List Choice} (h : listOr refuse given = .ok raw)
    (hread : raw.mapM Choice.ofValue = .ok choices) : longChoices given = .list raw := by
  rcases listOr_eq_ok_iff.1 h with rfl | ⟨_, hlist, rfl⟩
  · exact longChoices_of_maps (Choice.isMap_of_mapM hread)
  · cases given with
    | list xs => cases hlist
    | _ => rfl

section
variable {es : List (Value × Value)} {f : Field}

theorem ofEntries_of_select (h : hasType "select" es = true)
    (children : Unit → Except Fault (List Field)) : ofEntries es children = (do
      let a ← Attributes.ofEntries es
      let choices ← listOr (.choices a.slug) (fieldD "options" es)
      return .select a (← choices.mapM Choice.ofValue)) := by
  have htype : FieldType.ofValue? (fieldD "type" es) = some .select := by
    rw [hasType_iff.1 h]
    exact FieldType.ofValue?_name .select
  unfold ofEntries
  dsimp only
  rw [htype]

theorem ofEntries_of_group (h : hasType "group" es = true)
    (children : Unit → Except Fault (List Field)) : ofEntries es children = (do
      let a ← Attributes.ofEntries es
      let _ ← listOr (.children a.slug) (fieldD "fields" es)
      return .group a (← children ())) := by
  have htype : FieldType.ofValue? (fieldD "type" es) = some .group := by
    rw [hasType_iff.1 h]
    exact FieldType.ofValue?_name .group
  unfold ofEntries
  dsimp only
  rw [htype]

theorem ofEntries_longChoices {children children' : Unit → Except Fault (List Field)}
    (hselect : hasType "select" es = true) (h : ofEntries es children = .ok f) :
    ofEntries (setEntry (.text "options") (longChoices (fieldD "options" es)) es) children' =
      .ok f := by
  rw [ofEntries_of_select hselect] at h
  obtain ⟨a, ha, h⟩ := bind_eq_ok.1 h
  obtain ⟨raw, hraw, h⟩ := bind_eq_ok.1 h
  obtain ⟨choices, hchoices, h⟩ := bind_eq_ok.1 h
  rw [ofEntries_of_select ((hasType_setOptions "select" _ es).trans hselect),
    Attributes.ofEntries_congr fun name hname _ => field?_setEntry_of_ne hname _ es]
  refine bind_eq_ok.2 ⟨a, ha, bind_eq_ok.2 ⟨raw, ?_, bind_eq_ok.2 ⟨choices, hchoices, h⟩⟩⟩
  rw [fieldD, field?_setEntry_self, Option.getD_some, longChoices_of_read hraw hchoices,
    listOr_list]

theorem listOr_expandList {refuse : DefinitionCause} {given : Value} {raw : List Value}
    (h : listOr refuse given = .ok raw) : ∃ raw', listOr refuse (expandList given) = .ok raw' := by
  rcases listOr_eq_ok_iff.1 h with rfl | ⟨htruthy, hlist, rfl⟩
  · exact ⟨_, listOr_list refuse _⟩
  · cases given with
    | list xs => cases hlist
    | _ => exact ⟨[], h⟩

theorem ofEntries_expandChildren (hgroup : hasType "group" es = true)
    (hchildren : ∀ fs, childrenIn es = .ok fs → childrenIn (expandChildren es) = .ok fs)
    (h : ofEntries es (fun _ => childrenIn es) = .ok f) :
    ofEntries (expandChildren es) (fun _ => childrenIn (expandChildren es)) = .ok f := by
  rw [ofEntries_of_group hgroup] at h
  obtain ⟨a, ha, h⟩ := bind_eq_ok.1 h
  obtain ⟨raw, hraw, h⟩ := bind_eq_ok.1 h
  obtain ⟨fs, hfs, h⟩ := bind_eq_ok.1 h
  obtain ⟨raw', hraw'⟩ := listOr_expandList hraw
  rw [ofEntries_of_group ((hasType_expandChildren "group" es).trans hgroup),
    Attributes.ofEntries_congr fun name _ hname => field?_expandChildren hname es,
    fieldD_fields_expandChildren]
  exact bind_eq_ok.2 ⟨a, ha, bind_eq_ok.2 ⟨raw', hraw', bind_eq_ok.2 ⟨fs, hchildren fs hfs, h⟩⟩⟩

end

mutual

/-- What is read from a document as it is given is read from its long form. -/
theorem ofValue_expand (v : Value) {f : Field} (h : ofValue v = .ok f) :
    ofValue (expand v) = .ok f := by
  match v with
  | .map es =>
    by_cases hgroup : hasType "group" es = true
    · rw [expand_of_group hgroup]
      exact ofEntries_expandChildren hgroup (fun fs hfs => childrenIn_expandChildren es hfs) h
    by_cases hselect : hasType "select" es = true
    · rw [ofValue] at h
      rw [expand_of_select hselect, ofValue]
      exact ofEntries_longChoices hselect h
    · rwa [expand_of_neither hselect hgroup]
  | .null | .bool _ | .int _ | .float _ | .text _ | .bytes _ | .list _ | .tuple _ | .date _
  | .moment _ | .set _ | .answer _ _ | .upload _ _ _ _ _ => cases h
termination_by structural v

theorem childrenIn_expandChildren (es : List (Value × Value)) {fs : List Field}
    (h : childrenIn es = .ok fs) : childrenIn (expandChildren es) = .ok fs := by
  match es with
  | [] => exact h
  | (k, v) :: es =>
    by_cases hk : (text "fields").equal k = true
    · rw [childrenIn, if_pos hk] at h
      rw [expandChildren, if_pos hk, childrenIn, if_pos hk]
      exact ofListValue_expandList v h
    · rw [childrenIn, if_neg hk] at h
      rw [expandChildren, if_neg hk, childrenIn, if_neg hk]
      exact childrenIn_expandChildren es h
termination_by structural es

theorem ofListValue_expandList (v : Value) {fs : List Field} (h : ofListValue v = .ok fs) :
    ofListValue (expandList v) = .ok fs := by
  match v with
  | .list xs => exact ofValues_expandAll xs h
  | .null | .bool _ | .int _ | .float _ | .text _ | .bytes _ | .map _ | .tuple _ | .date _
  | .moment _ | .set _ | .answer _ _ | .upload _ _ _ _ _ => exact h
termination_by structural v

theorem ofValues_expandAll (xs : List Value) {fs : List Field} (h : ofValues xs = .ok fs) :
    ofValues (expandAll xs) = .ok fs := by
  match xs with
  | [] => exact h
  | x :: xs =>
    obtain ⟨f, hf, h⟩ := bind_eq_ok.1 h
    obtain ⟨rest, hrest, h⟩ := bind_eq_ok.1 h
    exact bind_eq_ok.2 ⟨f, ofValue_expand x hf, bind_eq_ok.2 ⟨rest, ofValues_expandAll xs hrest, h⟩⟩
termination_by structural xs

end

/-- Expanding a list of documents succeeds, and expanding it once is enough; nothing but the options
of its selects is changed, and what is read from the list as it is given is read from it as a form.
-/
theorem expandItems_conserves (xs : List Value) :
    ∃ ys, expandItems (.list xs) = .ok (.list ys) ∧ expandItems (.list ys) = .ok (.list ys) ∧
      List.Forall₂ SameButOptions xs ys ∧
      ∀ fields, ofItems (.list xs) = .ok fields → ofForm (.list xs) = .ok fields := by
  have hitems : ∀ zs, expandItems (.list zs) = .ok (.list (expandAll zs)) := by
    intro zs
    cases zs <;> rfl
  refine ⟨expandAll xs, hitems xs, ?_, same_expandAll xs, ?_⟩
  · rw [hitems, expandAll_expandAll]
  · intro fields h
    exact ofValues_expandAll xs h

def sized (sizes : Value) : Value :=
  .map [(.text "slug", .text "shirt"), (.text "type", .text "group"), (.text "fields", .list [
    .map [(.text "type", .text "select"),
      (.text "options", .list [.map [(.text "value", .text "red")]])],
    .map [(.text "options", sizes), (.text "type", .text "select"), (.text "slug", .text "size")]])]

/-- The empty text becomes an empty list in its place, and the same two selects are read. -/
theorem expandItems_conserves_sized :
    expandItems (.list [sized (.text "")]) = .ok (.list [sized (.list [])]) ∧
      SameButOptions (sized (.text "")) (sized (.list [])) ∧
      ∃ fields, ofItems (.list [sized (.text "")]) = .ok fields ∧
        ofForm (.list [sized (.text "")]) = .ok fields ∧ fields.map slug = [.text "shirt"] := by
  obtain ⟨ys, hys, _, hsame, hread⟩ := expandItems_conserves [sized (.text "")]
  have hexpanded : expandItems (.list [sized (.text "")]) = .ok (.list [sized (.list [])]) := rfl
  obtain rfl : [sized (.list [])] = ys := Value.list.inj (Except.ok.inj (hexpanded.symm.trans hys))
  have hfields : (ofItems (.list [sized (.text "")])).toOption.map (·.map slug) =
      some [.text "shirt"] := rfl
  obtain ⟨fields, hfields, hslugs⟩ := exists_of_toOption hfields
  exact ⟨hexpanded, (List.forall₂_cons.1 hsame).1, fields, hfields, hread fields hfields, hslugs⟩

end Field

end Intake
