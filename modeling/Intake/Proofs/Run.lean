import Intake.Captcha.Exchange

/-! Runs taken apart. From every exchange a run has one outcome, and the outcome of runs that are
joined comes from the outcomes of their parts. -/

namespace Intake.Run
open Captcha

variable {α β : Type}

def outcome (r : Run α) (e : Exchange) : Except Fault α × Exchange := r.run.run e

@[simp] theorem outcome_pure (x : α) (e : Exchange) :
    (pure x : Run α).outcome e = (.ok x, e) := rfl

theorem outcome_bind (r : Run α) (k : α → Run β) (e : Exchange) :
    (r >>= k).outcome e = match r.outcome e with
      | (.ok x, e') => (k x).outcome e'
      | (.error f, e') => (.error f, e') := by
  rcases h : r.outcome e with ⟨f | x, e'⟩
  all_goals
    unfold outcome at h
    simp only [outcome, ExceptT.run_bind, StateT.run_bind, h]
    rfl

theorem outcome_bind_ok {r : Run α} {k : α → Run β} {e e' : Exchange} {x : α}
    (h : r.outcome e = (.ok x, e')) : (r >>= k).outcome e = (k x).outcome e' := by
  rw [outcome_bind, h]

theorem outcome_bind_error {r : Run α} {k : α → Run β} {e e' : Exchange} {f : Fault}
    (h : r.outcome e = (.error f, e')) : (r >>= k).outcome e = (.error f, e') := by
  rw [outcome_bind, h]

@[simp] theorem outcome_ofExcept (r : Except Fault α) (e : Exchange) :
    (ofExcept r).outcome e = (r, e) := by
  cases r <;> rfl

theorem ofExcept_injective {x y : Except Fault α} (h : ofExcept x = ofExcept y) : x = y := by
  have houtcome := congrArg (fun r => (outcome r (.start [])).1) h
  simpa using houtcome

theorem ofExcept_bind_congr {r : Except Fault α} {k k' : α → Run β}
    (h : ∀ x, r = .ok x → k x = k' x) : ofExcept r >>= k = ofExcept r >>= k' := by
  cases r with
  | error f => rfl
  | ok x => exact h x rfl

theorem outcome_orElse (r : Run α) (recover : Fault → α) (e : Exchange) :
    (r.orElse recover).outcome e = match r.outcome e with
      | (.ok x, e') => (.ok x, e')
      | (.error f, e') => (.ok (recover f), e') := by
  unfold outcome orElse ExceptT.run StateT.run
  simp only [tryCatch, tryCatchThe, MonadExceptOf.tryCatch, ExceptT.tryCatch, ExceptT.mk, bind,
    StateT.bind]
  rcases r e with ⟨f | x, e'⟩ <;> rfl

theorem orElse_cases {r : Run α} {recover : Fault → α} {e e' : Exchange} {x : α}
    (h : (r.orElse recover).outcome e = (.ok x, e')) :
    r.outcome e = (.ok x, e') ∨ ∃ f, r.outcome e = (.error f, e') ∧ x = recover f := by
  rw [outcome_orElse] at h
  rcases hr : r.outcome e with ⟨f | y, e₁⟩
  · rw [hr] at h
    obtain ⟨hx, rfl⟩ := Prod.mk.inj h
    exact .inr ⟨f, rfl, (Except.ok.inj hx).symm⟩
  · rw [hr] at h
    exact .inl h

theorem exists_outcome_orElse (r : Run α) (recover : Fault → α) (e : Exchange) :
    ∃ x e', (r.orElse recover).outcome e = (.ok x, e') := by
  rw [outcome_orElse]
  rcases r.outcome e with ⟨f | x, e'⟩
  · exact ⟨recover f, e', rfl⟩
  · exact ⟨x, e', rfl⟩

theorem ext_outcome {r s : Run α} (h : ∀ e, r.outcome e = s.outcome e) : r = s := by
  apply ExceptT.ext
  apply StateT.ext
  exact h

/-- A run whose result comes from no exchange and that leaves every exchange as it is. -/
def AsksNothing (r : Run α) : Prop := ∃ x, r = ofExcept x

theorem asksNothing_pure (x : α) : (pure x : Run α).AsksNothing := ⟨.ok x, rfl⟩

theorem asksNothing_ofExcept (x : Except Fault α) : (ofExcept x).AsksNothing := ⟨x, rfl⟩

theorem AsksNothing.bind {r : Run α} {k : α → Run β} (h : r.AsksNothing)
    (hk : ∀ x, (k x).AsksNothing) : (r >>= k).AsksNothing := by
  obtain ⟨f | x, rfl⟩ := h
  · refine ⟨.error f, ext_outcome fun e => ?_⟩
    rw [outcome_bind_error (outcome_ofExcept _ e), outcome_ofExcept]
  · obtain ⟨y, hy⟩ := hk x
    refine ⟨y, ?_⟩
    rw [← hy]
    exact pure_bind x k

theorem AsksNothing.map {r : Run α} (h : r.AsksNothing) (g : α → β) : (g <$> r).AsksNothing := by
  rw [map_eq_pure_bind]
  exact h.bind fun x => asksNothing_pure (g x)

/-- Every result that a run has is of a kind. -/
def Gives (r : Run α) (p : α → Prop) : Prop :=
  ∀ e x e', r.outcome e = (.ok x, e') → p x

theorem gives_pure {x : α} {p : α → Prop} (h : p x) : (pure x : Run α).Gives p := by
  intro e y e' hy
  rw [outcome_pure, Prod.mk.injEq, Except.ok.injEq] at hy
  exact hy.1 ▸ h

theorem gives_true (r : Run α) : r.Gives fun _ => True := fun _ _ _ _ => trivial

@[simp] theorem gives_ofExcept (r : Except Fault α) : (ofExcept r).Gives fun x => r = .ok x := by
  intro e x e' h
  rw [outcome_ofExcept] at h
  exact (Prod.mk.inj h).1

theorem Gives.orElse {r : Run α} {p : α → Prop} (h : r.Gives p) (recover : Fault → α)
    (hrecover : ∀ f, p (recover f)) : (r.orElse recover).Gives p := by
  intro e x e' hx
  rcases orElse_cases hx with hr | ⟨f, _, rfl⟩
  · exact h e x e' hr
  · exact hrecover f

theorem Gives.bind {r : Run α} {k : α → Run β} {p : α → Prop} {q : β → Prop} (h : r.Gives p)
    (hk : ∀ x, p x → (k x).Gives q) : (r >>= k).Gives q := by
  intro e y e' hy
  rcases hr : r.outcome e with ⟨f | x, e₁⟩
  · rw [outcome_bind_error hr] at hy
    cases hy
  · rw [outcome_bind_ok hr] at hy
    exact hk x (h e x e₁ hr) e₁ y e' hy

theorem Gives.map {r : Run α} {g : α → β} {p : α → Prop} {q : β → Prop} (h : r.Gives p)
    (hg : ∀ x, p x → q (g x)) : (g <$> r).Gives q := by
  rw [map_eq_pure_bind]
  exact h.bind fun x hx => gives_pure (hg x hx)

end Intake.Run

namespace Intake

theorem bind_eq_ok {α β : Type} {r : Except Fault α} {k : α → Except Fault β} {y : β} :
    r >>= k = .ok y ↔ ∃ x, r = .ok x ∧ k x = .ok y := by
  cases r with
  | error f =>
    constructor
    · intro h
      cases h
    · rintro ⟨x, hx, _⟩
      cases hx
  | ok x =>
    constructor
    · exact fun h => ⟨x, rfl, h⟩
    · rintro ⟨x', hx, hk⟩
      cases hx
      exact hk

theorem exists_of_toOption {α β : Type} {r : Except Fault α} {g : α → β} {y : β}
    (h : r.toOption.map g = some y) : ∃ x, r = .ok x ∧ g x = y := by
  cases r with
  | error f => cases h
  | ok x => exact ⟨x, rfl, Option.some.inj h⟩

end Intake
