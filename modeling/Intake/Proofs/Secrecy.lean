import Intake.Field.Redaction
import Intake.Proofs.Definitions
import Intake.Proofs.Documents

/-! What the documents of redacted fields give away. A captcha field keeps its secret to itself; a
rule for captchas on any other field, a group included, is written down as it is declared. -/

namespace Intake

variable {names : Pattern.Names}

namespace Value

/-- The document of a field reveals a secret: that of its rule for captchas, or one that a field
inside it reveals. -/
inductive Reveals : Value → Prop
  | own {es rules rule : List (Value × Value)} {secret : Value}
      (hrules : field? "validators" es = some (.map rules))
      (hrule : field? "reCaptcha" rules = some (.map rule))
      (hsecret : field? "secret" rule = some secret) (h : secret.truthy = true) : Reveals (.map es)
  | inside {es : List (Value × Value)} {vs : List Value} {v : Value}
      (hfields : field? "fields" es = some (.list vs)) (hv : v ∈ vs) (h : Reveals v) :
      Reveals (.map es)

end Value

@[simp] theorem RuleBag.lookup_toEntries (b : RuleBag) (key : Value) :
    Value.lookup key b.toEntries = (b.get? key).map Rule.toValue := by
  unfold Value.lookup toEntries get?
  rw [List.find?_map, Option.map_map, Option.map_map]
  rfl

namespace Rule

def Reveals (r : Rule) : Prop :=
  ∃ es secret, r.toValue = .map es ∧ Value.field? "secret" es = some secret ∧ secret.truthy = true

theorem reveals_of_wellFormed {r : Rule} (h : r.WellFormed names .captcha) : r.Reveals := by
  obtain ⟨o, rfl, h⟩ := h
  cases o with
  | captcha siteKey secret =>
    obtain ⟨⟨k, rfl, _⟩, s, rfl, hs⟩ := h
    refine ⟨[(.text "siteKey", .text k), (.text "secret", .text s)], .text s, rfl, rfl, ?_⟩
    exact bne_iff_ne.2 hs
  | _ => exact h.elim

theorem not_reveals_blankSecret {r : Rule} (h : r.WellFormed names .captcha) :
    ¬ r.blankSecret.Reveals := by
  obtain ⟨o, rfl, h⟩ := h
  cases o with
  | captcha siteKey secret =>
    obtain ⟨⟨k, rfl, _⟩, _⟩ := h
    rintro ⟨es, secret', hes, hsecret, htruthy⟩
    cases hes
    cases hsecret
    cases htruthy
  | _ => exact h.elim

theorem hasSecret_of_wellFormed {r : Rule} (h : r.WellFormed names .captcha) :
    r.hasSecret = true := by
  obtain ⟨o, rfl, h⟩ := h
  cases o with
  | captcha siteKey secret =>
    obtain ⟨_, s, rfl, hs⟩ := h
    exact bne_iff_ne.2 hs
  | _ => exact h.elim

end Rule

namespace RuleBag

def Reveals (b : RuleBag) : Prop := ∃ r, b.get? RuleKind.captcha.key = some r ∧ r.Reveals

theorem exists_get?_iff {b : RuleBag} {kind : RuleKind} :
    (∃ r, b.get? kind.key = some r) ↔ kind.key ∈ b.kinds := by
  rw [← contains_key_iff]
  exact Option.isSome_iff_exists.symm

theorem reveals_iff {b : RuleBag} (h : b.WellFormed names) :
    b.Reveals ↔ RuleKind.captcha.key ∈ b.kinds := by
  rw [← exists_get?_iff]
  constructor
  · rintro ⟨r, hr, _⟩
    exact ⟨r, hr⟩
  · rintro ⟨r, hr⟩
    exact ⟨r, hr, Rule.reveals_of_wellFormed (h.rule (mem_of_get? hr))⟩

theorem not_reveals_redact {b : RuleBag} (h : b.WellFormed names) : ¬ b.redact.Reveals := by
  rintro ⟨r, hr, hreveals⟩
  unfold redact at hr
  cases hrule : b.get? RuleKind.captcha.key with
  | none =>
    rw [hrule] at hr
    simp only [hrule] at hr
    cases hr
  | some rule =>
    have hwf := h.rule (mem_of_get? hrule)
    simp only [hrule, Rule.hasSecret_of_wellFormed hwf, if_true, get?_insert_self] at hr
    obtain rfl := Option.some.inj hr
    exact Rule.not_reveals_blankSecret hwf hreveals

end RuleBag

namespace Field
open Value

@[simp] theorem field?_validators (f : Field) :
    field? "validators" f.toEntries = f.rules.map RuleBag.toValue :=
  field?_toEntries (List.mem_append_left _ (by simp [Attributes.slots, rules]))

theorem field?_fields {f : Field} {vs : List Value} :
    field? "fields" f.toEntries = some (.list vs) ↔
      ∃ a children, f = .group a children ∧ vs = toValues children := by
  cases f with
  | group a children =>
    have hfields : field? "fields" (toEntries (.group a children)) =
        some (.list (toValues children)) :=
      field?_toEntries (List.mem_append_right _ List.mem_cons_self)
    rw [hfields, exists_group_eq_iff, Option.some.injEq, Value.list.injEq]
    exact eq_comm
  | _ =>
    rw [toEntries_eq, field?_entriesOf_of_not_mem (of_decide_eq_true rfl)]
    simp

theorem reveals_toValue_iff {f : Field} :
    f.toValue.Reveals ↔ (∃ b, f.rules = some b ∧ b.Reveals) ∨
      ∃ a children, f = .group a children ∧ ∃ v ∈ toValues children, v.Reveals := by
  constructor
  · intro h
    unfold toValue at h
    cases h with
    | own hrules hrule hsecret h =>
      rw [field?_validators] at hrules
      obtain ⟨b, hb, hentries⟩ := Option.map_eq_some_iff.1 hrules
      obtain rfl := Value.map.inj hentries
      obtain ⟨r, hr, hvalue⟩ := Option.map_eq_some_iff.1
        ((RuleBag.lookup_toEntries b RuleKind.captcha.key).symm.trans hrule)
      exact .inl ⟨b, hb, r, hr, _, _, hvalue, hsecret, h⟩
    | inside hfields hv h =>
      obtain ⟨a, children, rfl, rfl⟩ := field?_fields.1 hfields
      exact .inr ⟨a, children, rfl, _, hv, h⟩
  · rintro (⟨b, hb, r, hr, es, secret, hvalue, hsecret, h⟩ | ⟨a, children, rfl, v, hv, h⟩)
    · have hrules := (field?_validators f).trans (congrArg (Option.map RuleBag.toValue) hb)
      have hrule := (RuleBag.lookup_toEntries b RuleKind.captcha.key).trans
        (congrArg (Option.map Rule.toValue) hr)
      rw [Option.map_some, hvalue] at hrule
      exact .own hrules hrule hsecret h
    · exact .inside (field?_fields.2 ⟨a, children, rfl, rfl⟩) hv h

/-- A rule for captchas on a field that is no captcha. -/
def Exposed (f : Field) : Prop :=
  f.isCaptcha = false ∧ ∃ b, f.rules = some b ∧ RuleKind.captcha.key ∈ b.kinds

theorem exposed_iff {f : Field} (hf : f.WellFormed names) (hcaptcha : f.isCaptcha = false) :
    (∃ b, f.rules = some b ∧ b.Reveals) ↔ f.Exposed := by
  rw [Exposed, and_iff_right hcaptcha]
  refine exists_congr fun b => and_congr_right fun hb => ?_
  exact RuleBag.reveals_iff (hf.rules b hb)

/-- A field that redaction leaves as it is reveals a secret exactly where it is exposed. -/
theorem reveals_iff_exposed {f : Field} (hf : f.WellFormed names) (hleaf : f.isGroup = false)
    (hcaptcha : f.isCaptcha = false) :
    f.toValue.Reveals ↔ f.Exposed ∨ ∃ a children, f = .group a children ∧
      ∃ siblings g, Layer children siblings ∧ g ∈ siblings ∧ g.Exposed := by
  have hno : ∀ p : Attributes → List Field → Prop,
      ¬ ∃ a children, f = .group a children ∧ p a children := by
    rintro p ⟨a, children, rfl, _⟩
    cases hleaf
  rw [reveals_toValue_iff, or_iff_left (hno _), or_iff_left (hno _)]
  exact exposed_iff hf hcaptcha

mutual

theorem reveals_redact_iff (f : Field) (hf : f.WellFormed names) (hbelow : f.Below names) :
    (redact f).toValue.Reveals ↔ f.Exposed ∨ ∃ a children, f = .group a children ∧
      ∃ siblings g, Layer children siblings ∧ g ∈ siblings ∧ g.Exposed := by
  match f with
  | .group a children =>
    obtain ⟨hsiblings, hbelows⟩ := forall_layer_iff.1 (hbelow a children rfl)
    have hchildren := reveals_redactAll_iff children hsiblings.wellFormed hbelows
    have hown : (∃ b, a.rules = some b ∧ b.Reveals) ↔ (Field.group a children).Exposed :=
      exposed_iff hf rfl
    unfold redact
    rw [reveals_toValue_iff, exists_group_eq_iff, exists_group_eq_iff, hchildren]
    exact or_congr_left hown
  | .select a choices => exact reveals_iff_exposed hf rfl rfl
  | .unknown t a => exact reveals_iff_exposed hf rfl rfl
  | .leaf t a =>
    cases t with
    | captcha =>
      -- the one type of field whose rule is rewritten
      unfold redact
      rw [reveals_toValue_iff]
      refine iff_of_false ?_ ?_
      · rintro (⟨b, hb, hreveals⟩ | ⟨_, _, h, _⟩)
        · obtain ⟨b', hb', rfl⟩ := Option.map_eq_some_iff.1 hb
          exact RuleBag.not_reveals_redact (hf.rules b' hb') hreveals
        · cases h
      · rintro (⟨h, _⟩ | ⟨_, _, h, _⟩) <;> cases h
    | _ => exact reveals_iff_exposed hf rfl rfl
termination_by structural f

theorem reveals_redactAll_iff (fs : List Field) (hf : ∀ f ∈ fs, f.WellFormed names)
    (hbelow : ∀ f ∈ fs, f.Below names) :
    (∃ v ∈ toValues (redactAll fs), v.Reveals) ↔
      ∃ siblings g, Layer fs siblings ∧ g ∈ siblings ∧ g.Exposed := by
  match fs with
  | [] =>
    rw [exists_layer_iff]
    simp [redactAll, toValues]
  | f :: fs =>
    rw [List.forall_mem_cons] at hf hbelow
    have hfirst := reveals_redact_iff f hf.1 hbelow.1
    have hrest := (reveals_redactAll_iff fs hf.2 hbelow.2).trans exists_layer_iff
    rw [exists_layer_iff, redactAll, toValues]
    simp only [List.mem_cons, exists_eq_or_imp]
    exact or_congr hfirst hrest
termination_by structural fs

end

end Field

namespace Definition
open Intake.Field

/-- A definition that is accepted reads as fields. Written down after redaction, they reveal a
secret exactly where at some depth a field that is no captcha has a rule for captchas. -/
theorem redacted_reveals_iff {root : Bool} {entries : List Entry} {report : Report}
    (h : checkEntries names root entries = .ok report) (hvalid : report.isValid = true) :
    ∃ fields : List Field, entries.map Entry.read = fields.map .ok ∧
      ((∃ v ∈ toValues (redactAll fields), v.Reveals) ↔
        ∃ siblings f, Layer fields siblings ∧ f ∈ siblings ∧ f.isCaptcha = false ∧
          ∃ b, f.rules = some b ∧ RuleKind.captcha.key ∈ b.kinds) := by
  obtain ⟨fields, hread, hsiblings, hbelow, -⟩ := exists_accepted h hvalid
  exact ⟨fields, hread, reveals_redactAll_iff fields hsiblings.wellFormed hbelow⟩

def robotText : Field :=
  .leaf .text (.ofRules "robot" [(.captcha, .options ⟨.captcha (.text "site") (.text "key"), []⟩)])

/-- The text is accepted, and its document after redaction reveals the secret. -/
theorem redacted_reveals_iff_robotText :
    ∃ report, checkEntries .none true [.field robotText] = .ok report ∧ report.isValid = true ∧
      ∃ v ∈ toValues (redactAll [robotText]), v.Reveals := by
  have haccepted : (checkEntries .none true [.field robotText]).toOption.map Report.isValid =
      some true := by decide +kernel
  obtain ⟨report, hreport, hvalid⟩ := exists_of_toOption haccepted
  obtain ⟨fields, hread, hiff⟩ := redacted_reveals_iff hreport hvalid
  obtain rfl : [robotText] = fields :=
    (List.map_inj_right fun _ _ h => Except.ok.inj h).1 hread
  exact ⟨report, hreport, hvalid, hiff.2
    ⟨_, robotText, .top _, List.mem_cons_self, rfl, _, rfl, List.mem_cons_self⟩⟩

end Definition

end Intake
