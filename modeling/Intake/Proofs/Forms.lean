import Intake.Field.Shorthand
import Intake.Proofs.Unreportable

/-! Forms that cannot be read. A form is refused as a definition, except where the first of its
fields that is not read has a part that no refusal can be worded for: a type that is no key, or a
value to name that has too many digits. -/

namespace Intake

def FaultsOnly {α : Type} (p : Fault → Prop) (r : Except Fault α) : Prop := ∀ f, r = .error f → p f

section
variable {α β : Type} {p : Fault → Prop}

theorem faultsOnly_ok (x : α) : FaultsOnly p (.ok x : Except Fault α) := nofun

theorem faultsOnly_error {f : Fault} (h : p f) : FaultsOnly p (.error f : Except Fault α) := by
  rintro g ⟨⟩
  exact h

theorem FaultsOnly.bind {r : Except Fault α} {k : α → Except Fault β} (hr : FaultsOnly p r)
    (hk : ∀ x, FaultsOnly p (k x)) : FaultsOnly p (r >>= k) := by
  cases r with
  | error f => exact faultsOnly_error (hr f rfl)
  | ok x => exact hk x

theorem FaultsOnly.map {r : Except Fault α} (hr : FaultsOnly p r) (g : α → β) :
    FaultsOnly p (do return g (← r)) :=
  hr.bind fun x => faultsOnly_ok (g x)

theorem faultsOnly_mapM {g : α → Except Fault β} (hg : ∀ x, FaultsOnly p (g x)) (xs : List α) :
    FaultsOnly p (xs.mapM g) := by
  induction xs with
  | nil => exact faultsOnly_ok []
  | cons x xs ih =>
    rw [List.mapM_cons]
    exact (hg x).bind fun y => ih.map (y :: ·)

end

namespace Field

/-- A fault of the definition, or of a value that cannot be written or that is no key. -/
def IsOfReading (f : Fault) : Prop :=
  (∃ c, f = .definition c) ∨ f = .value .unwritable ∨ ∃ t, f = .type (.unhashable t)

theorem faultsOnly_toFault {α : Type} (c : DefinitionCause) :
    FaultsOnly IsOfReading (.error c.toFault : Except Fault α) := by
  refine faultsOnly_error ?_
  unfold DefinitionCause.toFault
  split
  · exact .inl ⟨c, rfl⟩
  · exact .inr (.inl rfl)

theorem faultsOnly_asKey (v : Value) : FaultsOnly IsOfReading v.asKey := by
  unfold Value.asKey
  split
  · exact faultsOnly_error (.inr (.inr ⟨_, rfl⟩))
  · exact faultsOnly_ok v

theorem faultsOnly_choices (xs : List Value) : FaultsOnly IsOfReading (xs.mapM Choice.ofValue) := by
  refine faultsOnly_mapM (fun v => ?_) xs
  cases v with
  | map es => exact faultsOnly_ok _
  | _ => exact faultsOnly_toFault _

theorem faultsOnly_listOr (refuse : DefinitionCause) (raw : Value) :
    FaultsOnly IsOfReading (listOr refuse raw) := by
  unfold listOr
  split
  · exact faultsOnly_ok []
  · split
    · exact faultsOnly_ok _
    · exact faultsOnly_toFault refuse

theorem faultsOnly_attributes (es : List (Value × Value)) :
    FaultsOnly IsOfReading (Attributes.ofEntries es) := by
  unfold Attributes.ofEntries
  dsimp only
  -- the suggestions are read whatever the rules are, unless these are refused
  cases Value.fieldD "validators" es with
  | null | map rules =>
    exact (faultsOnly_listOr _ _).bind fun xs => (faultsOnly_choices xs).map _
  | _ => exact faultsOnly_toFault _

theorem faultsOnly_ofEntries {es : List (Value × Value)}
    (children : Unit → Except Fault (List Field))
    (h : FaultsOnly IsOfReading (children ())) :
    FaultsOnly IsOfReading (ofEntries es children) := by
  refine (faultsOnly_attributes es).bind fun a => ?_
  dsimp only
  split
  · exact (faultsOnly_listOr _ _).bind fun _ => h.map _
  · exact (faultsOnly_listOr _ _).bind fun xs => (faultsOnly_choices xs).map _
  · exact faultsOnly_ok _
  · exact (faultsOnly_asKey _).map _

mutual

theorem faultsOnly_ofValue (v : Value) : FaultsOnly IsOfReading (ofValue v) := by
  match v with
  | .map es => exact faultsOnly_ofEntries (fun _ => childrenIn es) (faultsOnly_childrenIn es)
  | .null | .bool _ | .int _ | .float _ | .text _ | .bytes _ | .list _ | .tuple _ | .date _
  | .moment _ | .set _ | .answer _ _ | .upload _ _ _ _ _ => exact faultsOnly_error (.inl ⟨_, rfl⟩)
termination_by structural v

theorem faultsOnly_childrenIn (es : List (Value × Value)) :
    FaultsOnly IsOfReading (childrenIn es) := by
  match es with
  | [] => exact faultsOnly_ok []
  | (k, v) :: es =>
    rw [childrenIn]
    split
    · exact faultsOnly_ofListValue v
    · exact faultsOnly_childrenIn es
termination_by structural es

theorem faultsOnly_ofListValue (v : Value) : FaultsOnly IsOfReading (ofListValue v) := by
  match v with
  | .list xs => exact faultsOnly_ofValues xs
  | .null | .bool _ | .int _ | .float _ | .text _ | .bytes _ | .map _ | .tuple _ | .date _
  | .moment _ | .set _ | .answer _ _ | .upload _ _ _ _ _ => exact faultsOnly_ok []
termination_by structural v

theorem faultsOnly_ofValues (xs : List Value) : FaultsOnly IsOfReading (ofValues xs) := by
  match xs with
  | [] => exact faultsOnly_ok []
  | x :: xs => exact (faultsOnly_ofValue x).bind fun f => (faultsOnly_ofValues xs).map (f :: ·)
termination_by structural xs

end

def listed : Value → Value
  | .map es => Value.fieldD "fields" es
  | v => v

theorem ofForm_of_list {v : Value} {xs : List Value} (h : listed v = .list xs) :
    ofForm v = ofValues (Shorthand.expandAll xs) := by
  cases v with
  | map es =>
    have hfields : Value.fieldD "fields" es = .list xs := h
    simp only [ofForm, hfields]
  | list ys =>
    cases h
    rfl
  | _ => cases h

theorem ofForm_of_not_list {v : Value} (h : ¬ ∃ xs, listed v = .list xs) :
    ofForm v = .error (.definition .form) := by
  cases v with
  | map es =>
    unfold ofForm
    dsimp only
    split
    · rename_i xs hfields
      exact absurd ⟨xs, hfields⟩ h
    · rfl
  | list xs => exact absurd ⟨xs, rfl⟩ h
  | _ => rfl

/-- A form is not read for another reason than that its definition is refused exactly where it has a
list of fields and the first of these that is not read, after its choices have been put in the long
form, has a part that no refusal can be worded for. Whatever keeps a form from being read is a
refusal of the definition, a value that cannot be written or a value that is no key. -/
theorem ofForm_escapes_iff (v : Value) :
    (Escapes (ofForm v) ↔ ∃ xs, listed v = .list xs ∧ StopsAt (Shorthand.expandAll xs)) ∧
      FaultsOnly IsOfReading (ofForm v) := by
  by_cases hlist : ∃ xs, listed v = .list xs
  · obtain ⟨xs, hxs⟩ := hlist
    rw [ofForm_of_list hxs, hxs]
    refine ⟨?_, faultsOnly_ofValues _⟩
    simp only [Value.list.injEq, exists_eq_left']
    exact escapes_ofValues_iff _
  · rw [ofForm_of_not_list hlist]
    refine ⟨iff_of_false ?_ ?_, faultsOnly_error (.inl ⟨_, rfl⟩)⟩
    · rintro ⟨f, h, hf⟩
      cases h
      exact hf _ rfl
    · rintro ⟨xs, hxs, _⟩
      exact hlist ⟨xs, hxs⟩

/-- A list as the type of a field is no key, and is not refused. -/
example : ofForm (.list [.map [(.text "slug", .text "a"), (.text "displayName", .text "A"),
    (.text "type", .list [.text "text"])]]) = .error (.type (.unhashable "list")) := by rfl

end Field

end Intake
