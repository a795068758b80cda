import Intake.Proofs.Run
import Intake.Submission.Upload
import Intake.Validation.Form

/-! Slugs and names that are texts. Texts are keys, and a text is equal to no value but itself, so
that looking up among texts is membership. -/

namespace Intake

namespace Value

def IsText (v : Value) : Prop := ∃ s, v = .text s

/-- A value that can be looked up among keys. -/
def IsKey (v : Value) : Prop := v.asKey = .ok v

@[simp]
theorem text_equal_iff {s : String} {v : Value} : (Value.text s).equal v = true ↔ v = .text s := by
  cases v with
  | text t =>
    simp only [equal, beq_iff_eq, text.injEq]
    exact eq_comm
  | _ => simp [equal]

@[simp]
theorem equal_text_iff {v : Value} {s : String} : v.equal (.text s) = true ↔ v = .text s := by
  cases v with
  | text t => simp only [equal, beq_iff_eq, text.injEq]
  | _ => simp [equal, numeric?, isNull]

theorem IsText.equal_iff {v w : Value} (hv : v.IsText) : v.equal w = true ↔ w = v := by
  obtain ⟨s, rfl⟩ := hv
  exact text_equal_iff

theorem IsText.isKey {v : Value} (hv : v.IsText) : v.IsKey := by
  obtain ⟨s, rfl⟩ := hv
  rfl

theorem IsText.any_equal_iff {v : Value} (hv : v.IsText) (vs : List Value) :
    vs.any v.equal = true ↔ v ∈ vs := by
  simp only [List.any_eq_true, hv.equal_iff, exists_eq_right]

end Value

namespace Validation

variable {declared : List Value}

theorem asKeys_eq {slugs : List Value} (h : ∀ s ∈ slugs, s.IsKey) : asKeys slugs = .ok slugs := by
  unfold asKeys
  induction slugs with
  | nil => rfl
  | cons s slugs ih =>
    have hs : s.asKey = .ok s := h s List.mem_cons_self
    have hrest := ih fun t ht => h t (List.mem_cons_of_mem _ ht)
    rw [List.mapM_cons, hs, hrest]
    rfl

theorem unexpectedFailures_eq {slugs : List Value} (h : ∀ s ∈ slugs, s.IsKey) :
    unexpectedFailures declared slugs =
      .ok ((slugs.filter fun s => !declared.any s.equal).map unexpected) := by
  induction slugs with
  | nil => rfl
  | cons s slugs ih =>
    have hs : s.asKey = .ok s := h s List.mem_cons_self
    have hrest := ih fun t ht => h t (List.mem_cons_of_mem _ ht)
    unfold unexpectedFailures
    rw [hs, hrest]
    by_cases hd : declared.any s.equal = true <;> simp [hd, bind, Except.bind, pure, Except.pure]

theorem uploadsFor_eq {uploads : List Upload} (h : ∀ u ∈ uploads, u.fieldName.IsKey) :
    uploadsFor declared uploads = .ok (uploads.filter fun u => declared.any u.fieldName.equal) := by
  induction uploads with
  | nil => rfl
  | cons u uploads ih =>
    have hu : u.fieldName.asKey = .ok u.fieldName := h u List.mem_cons_self
    have hrest := ih fun v hv => h v (List.mem_cons_of_mem _ hv)
    unfold uploadsFor
    rw [hu, hrest]
    by_cases hd : declared.any u.fieldName.equal = true <;>
      simp [hd, bind, Except.bind, pure, Except.pure]

theorem eq_of_asKey {v k : Value} (h : v.asKey = .ok k) : k = v := by
  unfold Value.asKey at h
  split at h
  · cases h
  · exact (Except.ok.inj h).symm

theorem isKey_of_unexpectedFailures {declared slugs : List Value} {xs : List Failure}
    (h : unexpectedFailures declared slugs = .ok xs) : ∀ s ∈ slugs, s.IsKey := by
  induction slugs generalizing xs with
  | nil => exact fun s hs => nomatch hs
  | cons s slugs ih =>
    unfold unexpectedFailures at h
    obtain ⟨k, hk, h⟩ := bind_eq_ok.1 h
    obtain ⟨rest, hrest, _⟩ := bind_eq_ok.1 h
    have hs : s.IsKey := by
      have heq := eq_of_asKey hk
      rwa [heq] at hk
    exact List.forall_mem_cons.2 ⟨hs, ih hrest⟩

theorem eq_of_asKeys {slugs declared : List Value} (h : asKeys slugs = .ok declared) :
    declared = slugs := by
  induction slugs generalizing declared with
  | nil => exact (Except.ok.inj h).symm
  | cons s slugs ih =>
    unfold asKeys at h
    rw [List.mapM_cons] at h
    obtain ⟨k, hk, h⟩ := bind_eq_ok.1 h
    obtain ⟨ks, hks, h⟩ := bind_eq_ok.1 h
    cases h
    rw [eq_of_asKey hk, ih hks]

theorem eq_of_uploadsFor {declared : List Value} {uploads own : List Upload}
    (h : uploadsFor declared uploads = .ok own) :
    own = uploads.filter fun u => declared.any u.fieldName.equal := by
  induction uploads generalizing own with
  | nil => exact (Except.ok.inj h).symm
  | cons u uploads ih =>
    unfold uploadsFor at h
    obtain ⟨k, hk, h⟩ := bind_eq_ok.1 h
    obtain ⟨rest, hrest, h⟩ := bind_eq_ok.1 h
    cases h
    rw [eq_of_asKey hk, ih hrest, List.filter_cons]
    split <;> rfl

end Validation

end Intake
