import Intake.Proofs.Definitions
import Intake.Proofs.Faults

/-! When the check of a form reports an internal error. With a form that is accepted, slugs that are
texts and a service that does not crash, it does so exactly where at some level reached a rule is
applied to a value that its check cannot take. -/

namespace Intake

variable {names : Pattern.Names}

/-- No reply that is still to come is a crash of the client. -/
def Captcha.Exchange.Calm (e : Captcha.Exchange) : Prop :=
  ∀ r ∈ e.replies, ∀ t, r ≠ .crash t

namespace Run
open Captcha

variable {α β : Type}

def FaultsIff (r : Run α) (p : Prop) : Prop :=
  ∀ e : Exchange, e.Calm → ∃ x e', r.outcome e = (x, e') ∧ e'.Calm ∧ (Faults x ↔ p)

theorem FaultsIff.congr {r : Run α} {p q : Prop} (h : r.FaultsIff p) (hpq : p ↔ q) :
    r.FaultsIff q := by
  intro e he
  obtain ⟨x, e', hout, he', hx⟩ := h e he
  exact ⟨x, e', hout, he', hx.trans hpq⟩

theorem faultsIff_pure (x : α) : (pure x : Run α).FaultsIff False := by
  intro e he
  exact ⟨.ok x, e, outcome_pure x e, he, iff_of_false (not_faults_ok x) id⟩

theorem faultsIff_ofExcept (x : Except Fault α) : (ofExcept x).FaultsIff (Faults x) := by
  intro e he
  exact ⟨x, e, outcome_ofExcept x e, he, Iff.rfl⟩

theorem FaultsIff.bind {r : Run α} {k : α → Run β} {p q : Prop} (h : r.FaultsIff p)
    (hk : ∀ x, (k x).FaultsIff q) : (r >>= k).FaultsIff (p ∨ q) := by
  intro e he
  obtain ⟨y, e₁, hout, he₁, hy⟩ := h e he
  cases y with
  | error f =>
    have hp := hy.1 ⟨f, rfl⟩
    exact ⟨.error f, e₁, outcome_bind_error hout, he₁, iff_of_true ⟨f, rfl⟩ (.inl hp)⟩
  | ok y =>
    obtain ⟨z, e₂, hout₂, he₂, hz⟩ := hk y e₁ he₁
    -- the first run has a result, so that a fault can only come from the second
    have hp : ¬ p := fun hp => not_faults_ok y (hy.2 hp)
    exact ⟨z, e₂, (outcome_bind_ok hout).trans hout₂, he₂, hz.trans (or_iff_right hp).symm⟩

theorem FaultsIff.map {r : Run α} {p : Prop} (h : r.FaultsIff p) (g : α → β) :
    (g <$> r).FaultsIff p := by
  rw [map_eq_pure_bind]
  exact (h.bind fun x => faultsIff_pure (g x)).congr (or_iff_left id)

end Run

namespace Captcha
open Run

theorem faultsIff_logLine (level : LogLevel) (message : String) :
    (logLine level message).FaultsIff False := by
  intro e he
  exact ⟨.ok (), e.log level message, rfl, he, iff_of_false (not_faults_ok ()) id⟩

theorem faultsIff_log_then {α : Type} (level : LogLevel) (message : String) (x : α) :
    (do logLine level message; return x).FaultsIff False :=
  ((faultsIff_logLine level message).bind fun _ => faultsIff_pure x).congr (or_self_iff)

theorem faultsIff_judge (status : Int) (content : List UInt8) :
    (judge status content).FaultsIff False := by
  unfold judge
  split
  · exact faultsIff_log_then _ _ _
  · split
    · exact faultsIff_pure true
    · exact faultsIff_log_then _ _ _
  · exact faultsIff_log_then _ _ _

theorem faultsIff_verify (c : Client) (secret token : String) :
    (verify c secret token).FaultsIff False := by
  intro e he
  have hpost : (e.post (c.request secret token)).2.Calm ∧
      ∀ t, (e.post (c.request secret token)).1 ≠ .crash t := by
    unfold Exchange.post
    cases hreplies : e.replies with
    -- a request that nobody replies to fails, which is no crash
    | nil => exact ⟨fun r hr => by simp at hr, nofun⟩
    | cons reply rest =>
      refine ⟨fun r hr => he r ?_, he reply ?_⟩
      · rw [hreplies]
        exact List.mem_cons_of_mem _ hr
      · rw [hreplies]
        exact List.mem_cons_self
  have hout :
      (modifyGet fun e : Exchange => e.post (c.request secret token) : Run Reply).outcome e =
      (.ok (e.post (c.request secret token)).1, (e.post (c.request secret token)).2) := rfl
  unfold verify
  rw [outcome_bind_ok hout]
  cases hreply : (e.post (c.request secret token)).1 with
  | response status content => exact faultsIff_judge status content _ hpost.1
  | failure text => exact faultsIff_log_then _ _ _ _ hpost.1
  | crash text => exact absurd hreply (hpost.2 text)

theorem faultsIff_check {r : Rule} (h : r.WellFormed names .captcha) (c : Client) (token : Value) :
    (check c token (Validation.withoutShorthand r)).FaultsIff (token.isWritable = false) := by
  obtain ⟨o, rfl, h⟩ := h
  cases o with
  | captcha siteKey secret =>
    obtain ⟨s, rfl, hs⟩ := h.2
    have husable : usable? (.text s) = some s := by
      unfold usable?
      simp [hs]
    have hsecret : Run.ofExcept (secretOf (Validation.withoutShorthand
        (.options ⟨.captcha siteKey (.text s), []⟩))) = pure (.text s) := rfl
    have hasked : ∀ t, (do
        if ← verify c s t then return []
        return ["ReCaptcha validation failed."]).FaultsIff False := by
      intro t
      refine ((faultsIff_verify c s t).bind fun holds => ?_).congr or_self_iff
      cases holds <;> exact faultsIff_pure _
    unfold check
    rw [hsecret, pure_bind, husable]
    by_cases ht : token.truthy = true
    · simp only [ht, Bool.not_true, Bool.false_eq_true, if_false]
      refine ((faultsIff_ofExcept token.written).bind hasked).congr ?_
      rw [or_false, Value.faults_written_iff]
    · simp only [ht, Bool.not_false, if_true]
      refine (faultsIff_pure _).congr (iff_of_false id fun h => ?_)
      exact ht (Check.truthy_of_unwritable h)
  | _ => exact h.elim

end Captcha

namespace RuleBag

def TripsOn (b : RuleBag) (v : Value) : Prop :=
  ∃ kind rule, (RuleKind.key kind, rule) ∈ b.rules ∧ rule.Trips kind v

/-- An element of a list cannot be taken: it is not let through, no list, and some rule trips. -/
def StumblesOn (b : RuleBag) (v : Value) : Prop :=
  ¬ (b.optsOut = true ∧ Validation.isEmpty v = true) ∧ v.elements? = none ∧ b.TripsOn v

/-- A list cannot be taken by the rule for lists, or some element not by the other rules. -/
def StumblesInside (b : RuleBag) (v : Value) (xs : List Value) : Prop :=
  ∃ rule, b.get? RuleKind.array.key = some rule ∧ rule.truthy = true ∧
    (rule.ExceededBy xs.length ∧ v.isWritable = false ∨
      ∃ x ∈ xs, (b.erase RuleKind.array.key).StumblesOn x)

def Stumbles (b : RuleBag) (isGroup : Bool) (v : Value) : Prop :=
  ¬ (b.optsOut = true ∧ Validation.isEmpty v = true) ∧
    ((v.elements? = none ∨ isGroup = true) ∧ b.TripsOn v ∨
      isGroup = false ∧ ∃ xs, v.elements? = some xs ∧ b.StumblesInside v xs)

theorem tripsOn_cons_iff {kind : RuleKind} {r : Rule} {rules : List (Value × Rule)} {v : Value} :
    TripsOn ⟨(kind.key, r) :: rules⟩ v ↔ r.Trips kind v ∨ TripsOn ⟨rules⟩ v := by
  constructor
  · rintro ⟨kind', rule, hmem, htrips⟩
    rcases List.mem_cons.1 hmem with heq | hmem
    · obtain ⟨hkey, rfl⟩ := Prod.mk.inj heq
      obtain rfl := RuleKind.key_injective hkey
      exact .inl htrips
    · exact .inr ⟨kind', rule, hmem, htrips⟩
  · rintro (htrips | ⟨kind', rule, hmem, htrips⟩)
    · exact ⟨kind, r, List.mem_cons_self, htrips⟩
    · exact ⟨kind', rule, List.mem_cons_of_mem _ hmem, htrips⟩

theorem WellFormed.erase {b : RuleBag} (h : b.WellFormed names) (key : Value) :
    (b.erase key).WellFormed names :=
  fun e he => h e (List.mem_filter.1 he).1

end RuleBag

namespace Validation
open Run

variable (c : Context) (slug : Value)

theorem messages_faultsIff {kind : RuleKind} {r : Rule} (h : r.WellFormed c.names kind)
    (v : Value) :
    (messages c kind v r).FaultsIff (r.Trips kind v) := by
  cases kind with
  | required | array | group | address => exact faultsIff_pure _
  | string => exact (faultsIff_ofExcept _).congr (Check.faults_string_iff h v)
  | boolean => exact (faultsIff_ofExcept _).congr (Check.faults_boolean_iff v)
  | number => exact (faultsIff_ofExcept _).congr (Check.faults_number_iff h v)
  | minAge => exact (faultsIff_ofExcept _).congr (Check.faults_age_iff h c.today v)
  | values => exact (faultsIff_ofExcept _).congr (Check.faults_values_iff r v)
  | email => exact (faultsIff_ofExcept _).congr (Check.faults_email_iff h v)
  | phone => exact (faultsIff_ofExcept _).congr (Check.faults_phone_iff h v)
  | file => exact (faultsIff_ofExcept _).congr (Check.faults_file_iff h (asUpload? v))
  | captcha => exact Captcha.faultsIff_check h c.client v

theorem ruleFailures_faultsIff {kind : RuleKind} {r : Rule} (h : r.WellFormed c.names kind)
    (v : Value) :
    (ruleFailures c slug v kind.key r).FaultsIff (r.Trips kind v) := by
  unfold ruleFailures
  rw [RuleKind.ofKey?_eq_some_iff.2 rfl]
  exact (messages_faultsIff c h v).map _

theorem rulesFailures_faultsIff {b : RuleBag} (h : b.WellFormed c.names) (v : Value) :
    (rulesFailures c slug v b.rules).FaultsIff (b.TripsOn v) := by
  obtain ⟨rules⟩ := b
  induction rules with
  | nil => exact (faultsIff_pure []).congr (by simp [RuleBag.TripsOn])
  | cons e rules ih =>
    obtain ⟨key, rule⟩ := e
    have hall := List.forall_mem_cons.1 h
    obtain ⟨⟨kind, rfl, hrule⟩, hrest⟩ := hall
    unfold rulesFailures
    refine ((ruleFailures_faultsIff c slug hrule v).bind fun here =>
      ((ih hrest).bind fun rest => faultsIff_pure (here ++ rest)).congr (or_iff_left id)).congr ?_
    exact RuleBag.tripsOn_cons_iff.symm

theorem elementFailures_faultsIff {b : RuleBag} (h : b.WellFormed c.names) (v : Value) :
    (elementFailures c slug b v).FaultsIff (b.StumblesOn v) := by
  unfold elementFailures RuleBag.StumblesOn
  split
  · rename_i hout
    rw [Bool.and_eq_true] at hout
    exact (faultsIff_pure []).congr (by simp [hout])
  · rename_i hout
    rw [Bool.and_eq_true] at hout
    split
    · rename_i hlist
      refine (faultsIff_pure _).congr ?_
      cases hv : v.elements? with
      | none => simp [hv] at hlist
      | some xs => simp
    · rename_i hlist
      refine (rulesFailures_faultsIff c slug h v).congr ?_
      rw [Bool.not_eq_true, Option.isSome_eq_false_iff, Option.isNone_iff_eq_none] at hlist
      rw [and_iff_right hout, and_iff_right hlist]

theorem elementsFailures_faultsIff {b : RuleBag} (h : b.WellFormed c.names) (xs : List Value) :
    (elementsFailures c slug b xs).FaultsIff (∃ x ∈ xs, b.StumblesOn x) := by
  induction xs with
  | nil => exact (faultsIff_pure []).congr (by simp)
  | cons x xs ih =>
    unfold elementsFailures
    refine ((elementFailures_faultsIff c slug h x).bind fun here =>
      (ih.bind fun rest => faultsIff_pure (here ++ rest)).congr (or_iff_left id)).congr ?_
    simp

theorem listFailures_faultsIff {b : RuleBag} (h : b.WellFormed c.names) {v : Value}
    {xs : List Value}
    (hv : v.elements? = some xs) :
    (listFailures c slug v b xs).FaultsIff (b.StumblesInside v xs) := by
  unfold listFailures RuleBag.StumblesInside
  cases hrule : b.get? RuleKind.array.key with
  | none => exact (faultsIff_pure _).congr (by simp)
  | some rule =>
    by_cases ht : rule.truthy = true
    · have hwf := h.rule (RuleBag.mem_of_get? hrule)
      have helements := elementsFailures_faultsIff c slug (h.erase RuleKind.array.key) xs
      simp only [ht, Bool.not_true, Bool.false_eq_true, if_false]
      refine ((faultsIff_ofExcept (Check.array v (withoutShorthand rule))).bind fun whole =>
        (helements.bind fun rest => faultsIff_pure _).congr (or_iff_left id)).congr ?_
      rw [Check.faults_array_iff hwf hv]
      simp [ht]
    · simp only [ht, Bool.not_false, if_true]
      exact (faultsIff_pure _).congr (by simp [ht])

theorem valueFailures_faultsIff {b : RuleBag} (h : b.WellFormed c.names) (v : Value)
    (isGroup : Bool) :
    (valueFailures c slug v b isGroup).FaultsIff (b.Stumbles isGroup v) := by
  unfold valueFailures RuleBag.Stumbles
  split
  · rename_i hout
    rw [Bool.and_eq_true] at hout
    exact (faultsIff_pure []).congr (by simp [hout])
  · rename_i hout
    rw [Bool.and_eq_true] at hout
    cases hv : v.elements? with
    | none =>
      refine (rulesFailures_faultsIff c slug h v).congr ?_
      simp [hout]
    | some xs =>
      cases isGroup with
      | true =>
        refine (rulesFailures_faultsIff c slug h v).congr ?_
        simp [hout]
      | false =>
        refine (listFailures_faultsIff c slug h hv).congr ?_
        simp [hout]

theorem wellFormed_insert {b : RuleBag} (h : b.WellFormed names) (kind : RuleKind) {r : Rule}
    (hr : r.WellFormed names kind) : (b.insert kind.key r).WellFormed names := by
  intro e he
  unfold RuleBag.insert at he
  obtain ⟨rules⟩ := b
  induction rules with
  | nil =>
    obtain rfl := List.mem_singleton.1 he
    exact ⟨kind, rfl, hr⟩
  | cons e' rules ih =>
    have hall := List.forall_mem_cons.1 h
    simp only [Value.setEntry] at he
    split at he
    · rename_i hkey
      rcases List.mem_cons.1 he with rfl | he
      · exact ⟨kind, Value.text_equal_iff.1 hkey, hr⟩
      · exact hall.2 e he
    · rcases List.mem_cons.1 he with rfl | he
      · exact hall.1
      · exact ih hall.2 he

theorem effectiveRules_wellFormed {f : Field} (h : f.WellFormed names) (v : Value) :
    (effectiveRules f v).WellFormed names := by
  have hown : (f.rules.getD .empty).WellFormed names := by
    cases hr : f.rules with
    | none => exact fun e he => nomatch he
    | some b => exact h.rules b hr
  have hchoices : (withChoices f (f.rules.getD .empty)).WellFormed names := by
    unfold withChoices
    split
    · split
      · exact hown
      · exact wellFormed_insert hown .values trivial
    · exact hown
  unfold effectiveRules withList
  split
  · exact wellFormed_insert hchoices .array (.inl rfl)
  · exact hchoices

end Validation

namespace Level
open Validation

variable (c : Context) (uploads : List Upload)

def Stumbles (l : Level) (f : Field) : Prop :=
  (l.rules uploads f).Stumbles f.isGroup (l.value uploads f)

def StumblesBelow (l : Level) : Prop := ∃ m f, l.Reaches m ∧ f ∈ m.fields ∧ m.Stumbles uploads f

variable {c uploads}

theorem stumblesBelow_iff {l : Level} :
    l.StumblesBelow uploads ↔ ∃ f ∈ l.fields, l.Stumbles uploads f ∨
      ∃ a children, f = .group a children ∧ (l.below a children).StumblesBelow uploads := by
  constructor
  · rintro ⟨m, f, hm, hf, hstumbles⟩
    cases hm with
    | here => exact ⟨f, hf, .inl hstumbles⟩
    | down hg hm => exact ⟨_, hg, .inr ⟨_, _, rfl, m, f, hm, hf, hstumbles⟩⟩
  · rintro ⟨f, hf, hstumbles | ⟨a, children, rfl, m, g, hm, hg, hstumbles⟩⟩
    · exact ⟨l, f, .here l, hf, hstumbles⟩
    · exact ⟨m, g, .down hf hm, hg, hstumbles⟩

def Admits (x : Failure) : Prop := x.code = "INTERNAL_ERROR"

theorem admits_report {l : Level} (names : List Value) {failures : List Failure}
    (h : l.fields = [] → failures = []) :
    Meets Admits (l.report names failures) ↔ Meets Admits failures := by
  apply meets_report_iff
  · exact show "NO_FIELDS" ≠ "INTERNAL_ERROR" by decide
  · exact fun s => show "UNEXPECTED_FIELD" ≠ "INTERNAL_ERROR" by decide
  · exact h

theorem own_admits_iff {l : Level} {f : Field} (hf : f.WellFormed c.names) {slug : Value}
    {own : List Failure} {e e' : Captcha.Exchange} (he : e.Calm)
    (hown : ((l.ownCheck c uploads f).orElse fun _ => [internalFailure slug]).outcome e =
      (.ok own, e')) : (Meets Admits own ↔ l.Stumbles uploads f) ∧ e'.Calm := by
  obtain ⟨x, e₁, hout, he₁, hx⟩ := valueFailures_faultsIff c f.slug
    (effectiveRules_wellFormed hf (l.value uploads f)) (l.value uploads f) f.isGroup e he
  have hcheck : (l.ownCheck c uploads f).outcome e = (x, e₁) := hout
  rcases Run.orElse_cases hown with hgiven | ⟨fault, hfault, rfl⟩
  -- no check that has a result reports under the code of faults
  · obtain ⟨rfl, rfl⟩ := Prod.mk.inj (hcheck.symm.trans hgiven)
    refine ⟨iff_of_false ?_ fun h => not_faults_ok own (hx.2 h), he₁⟩
    rintro ⟨y, hy, hcode⟩
    exact (isOwn_code (valueFailures_gives c f.slug _ _ _ e own e₁ hout y hy)).2.1 hcode
  · obtain ⟨rfl, rfl⟩ := Prod.mk.inj (hcheck.symm.trans hfault)
    exact ⟨iff_of_true ⟨_, List.mem_singleton.2 rfl, rfl⟩ (hx.1 ⟨fault, rfl⟩), he₁⟩

theorem Visit.admits_iff {l : Level} {fs : List Field} {e e' : Captcha.Exchange}
    {failures : List Failure} (hv : Visit c uploads l fs e failures e') (he : e.Calm)
    (hf : ∀ siblings, Field.Layer l.fields siblings → ∀ f ∈ siblings, f.WellFormed c.names)
    (hsub : fs ⊆ l.fields) :
    (Meets Admits failures ↔ ∃ f ∈ fs, l.Stumbles uploads f ∨
      ∃ a children, f = .group a children ∧ (l.below a children).StumblesBelow uploads) ∧
    e'.Calm := by
  induction hv with
  | done => exact ⟨by simp [not_meets_nil], he⟩
  | @leaf l f fs e e₁ e₂ own rest hleaf hown hrest ih =>
    have hwf := hf l.fields (.top _) f (hsub List.mem_cons_self)
    obtain ⟨hadmits, he₁⟩ := own_admits_iff hwf he hown
    obtain ⟨hrests, he₂⟩ := ih he₁ hf fun g hg => hsub (List.mem_cons_of_mem _ hg)
    refine ⟨?_, he₂⟩
    have hno : ¬ ∃ a children, f = .group a children ∧
        (l.below a children).StumblesBelow uploads := by
      rintro ⟨a, children, rfl, _⟩
      cases hleaf
    simp only [meets_append_iff, hadmits, hrests, List.mem_cons, exists_eq_or_imp, or_iff_left hno]
  | @group l a children fs e e₁ e₂ e₃ inner own rest hinner hown hrest ihinner ihrest =>
    have hmem := hsub List.mem_cons_self
    have hbelow : ∀ siblings, Field.Layer (l.below a children).fields siblings →
        ∀ f ∈ siblings, f.WellFormed c.names := fun siblings hs => hf siblings (.inside hmem hs)
    obtain ⟨hinners, he₁⟩ := ihinner he hbelow fun _ hg => hg
    obtain ⟨hadmits, he₂⟩ := own_admits_iff (hf l.fields (.top _) _ hmem) he₁ hown
    obtain ⟨hrests, he₃⟩ := ihrest he₂ hf fun g hg => hsub (List.mem_cons_of_mem _ hg)
    refine ⟨?_, he₃⟩
    have hgroup : Meets Admits (underGroup a.slug ((l.below a children).report [] inner)) ↔
        (l.below a children).StumblesBelow uploads := by
      have hno : ¬ Admits (groupFailure a.slug) := show "GROUP_INVALID" ≠ "INTERNAL_ERROR" by decide
      rw [meets_underGroup_iff, or_iff_right fun h => hno h.2, admits_report, stumblesBelow_iff]
      · exact hinners
      · rintro (rfl : children = [])
        exact hinner.eq_nil_of_nil
    simp only [meets_append_iff, hgroup, hadmits, hrests, List.mem_cons, exists_eq_or_imp,
      Field.exists_group_eq_iff]
    exact or_congr_left or_comm

end Level

namespace Validation

/-- With a form that is accepted, slugs and names that are texts and a service that does not crash,
the check of a form has a report, and there is an internal error in it exactly where at some level
reached the value found for a field cannot be taken by the rules of the field. -/
theorem check_internalError_iff (c : Context) {fields : List Field} {definition : Report}
    (haccepted : Definition.checkFields c.names true fields = .ok definition)
    (hvalid : definition.isValid = true) (answers : List Answer) (uploads : List Upload)
    (htexts : ∀ s ∈ Answer.slugs answers, s.IsText) (hnames : ∀ u ∈ uploads, u.fieldName.IsText)
    (e : Captcha.Exchange) (hcalm : ∀ r ∈ e.replies, ∀ t, r ≠ .crash t) :
    ∃ report e', (check c answers fields uploads).outcome e = (.ok report, e') ∧
      ((∃ x ∈ report.failures, x.code = "INTERNAL_ERROR") ↔
        ∃ m f, Level.Reaches ⟨fields, answers⟩ m ∧ f ∈ m.fields ∧
          (m.rules uploads f).Stumbles f.isGroup (m.value uploads f)) := by
  have haccepts := Definition.accepts_of_checkFields haccepted hvalid
  have htextual : Level.HasTexts ⟨fields, answers⟩ := by
    refine ⟨fun s hs => ?_, htexts⟩
    obtain ⟨siblings, g, hlayer, hg, rfl⟩ := Field.exists_layer_of_mem_slugsOf hs
    obtain ⟨t, ht, _⟩ := (haccepts.wellFormed hlayer g hg).slug
    exact ⟨t, ht⟩
  obtain ⟨failures, e', hrun, hvisit⟩ := Level.check_visit (c := c) htextual hnames e
  have hadmits := (hvisit.admits_iff hcalm (fun _ hs => haccepts.wellFormed hs) fun _ hf => hf).1
  refine ⟨_, e', hrun, ?_⟩
  have hempty : fields = [] → failures = [] := by
    rintro rfl
    exact hvisit.eq_nil_of_nil
  have hreport := Level.admits_report (l := ⟨fields, answers⟩) (uploads.map (·.fieldName)) hempty
  exact (hreport.trans hadmits).trans Level.stumblesBelow_iff.symm

def anyNumber : Field := .leaf .text (.ofRules "any" [(.number, .plain (.bool true))])

def manyDigits : Value := .int (Nat.pow 10 400)

/-- The form is accepted, the integer is submitted for its field, and the report has an internal
error. -/
theorem check_internalError_iff_manyDigits :
    ∃ report e', (check .newYear [⟨.text "any", manyDigits⟩] [anyNumber] []).outcome (.start []) =
        (.ok report, e') ∧ ∃ x ∈ report.failures, x.code = "INTERNAL_ERROR" := by
  have haccepted : (Definition.checkFields .none true [anyNumber]).toOption.map Report.isValid =
      some true := by decide +kernel
  obtain ⟨definition, hdefinition, hvalid⟩ := exists_of_toOption haccepted
  have htexts : ∀ s ∈ Answer.slugs [⟨.text "any", manyDigits⟩], s.IsText := by
    intro s hs
    exact ⟨"any", List.mem_singleton.1 hs⟩
  obtain ⟨report, e', hrun, hiff⟩ := check_internalError_iff .newYear hdefinition hvalid
    [⟨.text "any", manyDigits⟩] [] htexts (by simp) (.start []) (by simp [Captcha.Exchange.start])
  have hlarge : manyDigits.IsTooLarge := ⟨_, rfl, by decide +kernel⟩
  have htrips : RuleBag.TripsOn ⟨[(RuleKind.number.key, .plain (.bool true))]⟩ manyDigits :=
    ⟨.number, _, List.mem_cons_self, .inl hlarge⟩
  refine ⟨report, e', hrun, hiff.2 ⟨_, anyNumber, .here _, List.mem_cons_self, ?_⟩⟩
  refine ⟨fun h => absurd h.1 (by decide), .inl ⟨.inl rfl, ?_⟩⟩
  exact htrips

end Validation

end Intake
