import Intake.Proofs.Places
import Intake.Proofs.Texts

/-! Keys. Equality of values is symmetric and transitive on those that can be keys, although what is
not a number differs from itself, so that equal keys are equal to the same values and either may
stand for the other in a search. -/

namespace Intake

namespace Number.Numeric

theorem eqv_iff_exists {a b : Numeric} :
    a.eqv b = true ↔ ∃ p, a.place? = some p ∧ b.place? = some p := by
  cases ha : a.place? with
  | none =>
    refine iff_of_false (fun h => ?_) (by simp)
    unfold eqv at h
    rw [compare?_eq, ha] at h
    cases h
  | some p =>
    cases hb : b.place? with
    | none =>
      refine iff_of_false (fun h => ?_) (by simp)
      unfold eqv at h
      rw [compare?_eq, ha, hb] at h
      cases h
    | some q =>
      rw [eqv_iff ha hb]
      simp only [Option.some.injEq, exists_eq_left']
      exact eq_comm

theorem eqv_symm {a b : Numeric} (h : a.eqv b = true) : b.eqv a = true := by
  obtain ⟨p, ha, hb⟩ := eqv_iff_exists.1 h
  exact eqv_iff_exists.2 ⟨p, hb, ha⟩

theorem eqv_trans {a b c : Numeric} (h : a.eqv b = true) (h' : b.eqv c = true) :
    a.eqv c = true := by
  obtain ⟨p, ha, hb⟩ := eqv_iff_exists.1 h
  obtain ⟨q, hb', hc⟩ := eqv_iff_exists.1 h'
  obtain rfl := Option.some.inj (hb.symm.trans hb')
  exact eqv_iff_exists.2 ⟨p, ha, hc⟩

end Number.Numeric

namespace Calendar.Moment

theorem eqv_symm {a b : Moment} (h : a.eqv b = true) : b.eqv a = true := by
  unfold eqv at h ⊢
  cases ha : a.offset <;> cases hb : b.offset <;> simp_all

theorem eqv_trans {a b c : Moment} (h : a.eqv b = true) (h' : b.eqv c = true) :
    a.eqv c = true := by
  unfold eqv at h h' ⊢
  cases ha : a.offset <;> cases hb : b.offset <;> cases hc : c.offset <;> simp_all

end Calendar.Moment

namespace Value

theorem isKey_iff {v : Value} : v.IsKey ↔ v.unhashable? = none := by
  unfold IsKey asKey
  cases v.unhashable? <;> simp

theorem equal_of_numeric {a : Value} {n : Number.Numeric} (h : a.numeric? = some n) (b : Value) :
    a.equal b = true ↔ ∃ m, b.numeric? = some m ∧ n.eqv m = true := by
  have hequal : a.equal b = b.numeric?.any n.eqv := by
    cases a <;> cases h <;> rfl
  rw [hequal, Option.any_eq_true]

theorem equal_symm_of_numeric {a b : Value} {n : Number.Numeric} (ha : a.numeric? = some n)
    (h : a.equal b = true) : b.equal a = true := by
  obtain ⟨m, hb, heqv⟩ := (equal_of_numeric ha b).1 h
  exact (equal_of_numeric hb a).2 ⟨n, ha, Number.Numeric.eqv_symm heqv⟩

theorem equal_trans_of_numeric {a b c : Value} {n : Number.Numeric} (ha : a.numeric? = some n)
    (h : a.equal b = true) (h' : b.equal c = true) : a.equal c = true := by
  obtain ⟨m, hb, heqv⟩ := (equal_of_numeric ha b).1 h
  obtain ⟨l, hc, heqv'⟩ := (equal_of_numeric hb c).1 h'
  exact (equal_of_numeric ha c).2 ⟨l, hc, Number.Numeric.eqv_trans heqv heqv'⟩

mutual

theorem equal_symm (a b : Value) (ha : a.unhashable? = none) (h : a.equal b = true) :
    b.equal a = true := by
  match a, b with
  | .bool _, _ | .int _, _ | .float _, _ => exact equal_symm_of_numeric rfl h
  | .null, .null => rfl
  | .text s, b =>
    rw [text_equal_iff.1 h]
    exact text_equal_iff.2 rfl
  | .bytes bs, .bytes cs => exact beq_iff_eq.2 (beq_iff_eq.1 h).symm
  | .date d, .date e => exact beq_iff_eq.2 (beq_iff_eq.1 h).symm
  | .moment m, .moment k => exact Calendar.Moment.eqv_symm h
  | .tuple xs, .tuple ys => exact equalLists_symm xs ys ha h
termination_by structural a

theorem equalLists_symm (xs ys : List Value) (hxs : unhashableAmong? xs = none)
    (h : equalLists xs ys = true) : equalLists ys xs = true := by
  match xs, ys with
  | [], [] => rfl
  | x :: xs, y :: ys =>
    obtain ⟨hx, hxs⟩ := Option.or_eq_none_iff.1 hxs
    obtain ⟨hfirst, hrest⟩ := Bool.and_eq_true_iff.1 h
    exact Bool.and_eq_true_iff.2 ⟨equal_symm x y hx hfirst, equalLists_symm xs ys hxs hrest⟩
termination_by structural xs

end

mutual

theorem equal_trans (a b c : Value) (ha : a.unhashable? = none) (h : a.equal b = true)
    (h' : b.equal c = true) : a.equal c = true := by
  match a, b, c with
  | .bool _, _, _ | .int _, _, _ | .float _, _, _ => exact equal_trans_of_numeric rfl h h'
  | .null, .null, c => exact h'
  | .text s, b, c => rwa [text_equal_iff.1 h] at h'
  | .bytes bs, .bytes cs, c => rwa [beq_iff_eq.1 h]
  | .date d, .date e, c => rwa [beq_iff_eq.1 h]
  | .moment m, .moment k, .moment l => exact Calendar.Moment.eqv_trans h h'
  | .tuple xs, .tuple ys, .tuple zs => exact equalLists_trans xs ys zs ha h h'
termination_by structural a

theorem equalLists_trans (xs ys zs : List Value) (hxs : unhashableAmong? xs = none)
    (h : equalLists xs ys = true) (h' : equalLists ys zs = true) : equalLists xs zs = true := by
  match xs, ys, zs with
  | [], [], [] => rfl
  | x :: xs, y :: ys, z :: zs =>
    obtain ⟨hx, hxs⟩ := Option.or_eq_none_iff.1 hxs
    obtain ⟨hfirst, hrest⟩ := Bool.and_eq_true_iff.1 h
    obtain ⟨hfirst', hrest'⟩ := Bool.and_eq_true_iff.1 h'
    exact Bool.and_eq_true_iff.2
      ⟨equal_trans x y z hx hfirst hfirst', equalLists_trans xs ys zs hxs hrest hrest'⟩
termination_by structural xs

end

mutual

theorem unhashable?_of_equal (a b : Value) (ha : a.unhashable? = none) (h : a.equal b = true) :
    b.unhashable? = none := by
  match a, b with
  | .bool _, b | .int _, b | .float _, b =>
    obtain ⟨m, hb, -⟩ := (equal_of_numeric rfl b).1 h
    cases b <;> first | rfl | cases hb
  | .null, .null | .bytes _, .bytes _ | .date _, .date _ | .moment _, .moment _ => rfl
  | .text s, b =>
    rw [text_equal_iff.1 h]
    rfl
  | .tuple xs, .tuple ys => exact unhashableAmong?_of_equal xs ys ha h
termination_by structural a

theorem unhashableAmong?_of_equal (xs ys : List Value) (hxs : unhashableAmong? xs = none)
    (h : equalLists xs ys = true) : unhashableAmong? ys = none := by
  match xs, ys with
  | [], [] => rfl
  | x :: xs, y :: ys =>
    obtain ⟨hx, hxs⟩ := Option.or_eq_none_iff.1 hxs
    obtain ⟨hfirst, hrest⟩ := Bool.and_eq_true_iff.1 h
    exact Option.or_eq_none_iff.2
      ⟨unhashable?_of_equal x y hx hfirst, unhashableAmong?_of_equal xs ys hxs hrest⟩
termination_by structural xs

end

namespace IsKey
variable {k k' v : Value}

theorem of_equal (hk : k.IsKey) (h : k.equal v = true) : v.IsKey := by
  rw [isKey_iff] at hk ⊢
  exact unhashable?_of_equal k v hk h

theorem equal_symm (hk : k.IsKey) (h : k.equal v = true) : v.equal k = true :=
  Value.equal_symm k v (isKey_iff.1 hk) h

theorem equal_congr (hk : k.IsKey) (h : k.equal k' = true) (v : Value) :
    k.equal v = k'.equal v := by
  have hk' := hk.of_equal h
  rw [isKey_iff] at hk hk'
  have hback := Value.equal_symm k k' hk h
  rw [Bool.eq_iff_iff]
  exact ⟨equal_trans k' k v hk' hback, equal_trans k k' v hk h⟩

theorem equal_of_common (hk : k.IsKey) (hk' : k'.IsKey) (h : k.equal v = true)
    (h' : k'.equal v = true) : k.equal k' = true :=
  equal_trans k v k' (isKey_iff.1 hk) h (hk'.equal_symm h')

end IsKey

end Value

end Intake
