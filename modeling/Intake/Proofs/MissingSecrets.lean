import Intake.Proofs.Positions
import Intake.Proofs.Redaction
import Intake.Proofs.Definitions

/-! What the check of a definition has to say about fields that are published. Where the fields were
accepted, the secrets that redaction took away are all that is missing afterwards: one failure for
each captcha field, at whatever depth, and no other. -/

namespace Intake

variable {names : Pattern.Names}

namespace RuleBag

theorem WellFormed.exists_captcha {b : RuleBag} (h : b.WellFormed names)
    (hcaptcha : RuleKind.captcha.key ∈ b.kinds) :
    ∃ before after k s, (∀ e ∈ before, e.1 ≠ RuleKind.captcha.key) ∧ k ≠ "" ∧ s ≠ "" ∧
      b = ⟨before ++ (RuleKind.captcha.key, .ofSecret (.text k) [] (.text s)) :: after⟩ := by
  obtain ⟨rule, hget⟩ := Option.isSome_iff_exists.1 (contains_key_iff.2 hcaptcha)
  obtain ⟨o, rfl, hsuits⟩ := h.rule (mem_of_get? hget)
  cases o with
  | captcha siteKey secret =>
    rcases b.secret_cases with hnone | ⟨before, siteKey', extra, secret', after, hbefore, rfl⟩
    · rw [hget] at hnone
      cases hnone
    · rw [get?_split hbefore] at hget
      cases hget
      obtain ⟨⟨k, rfl, hk⟩, s, rfl, hs⟩ := hsuits
      exact ⟨before, after, k, s, hbefore, hk, hs, rfl⟩
  | _ => exact hsuits.elim

@[simp, grind =] theorem kinds_redact (b : RuleBag) : b.redact.kinds = b.kinds := by
  rcases b.secret_cases with h | ⟨before, siteKey, extra, s, after, hbefore, rfl⟩
  · rw [redact_without h]
  · rw [redact_secret hbefore]
    unfold kinds
    rw [List.map_append, List.map_append]
    rfl

end RuleBag

namespace Definition
open Intake.Field

def secretMissing : Failure :=
  ⟨.text "reCaptcha", "Invalid validator \"reCaptcha\" provided. " ++
    "A valid value for \"secret\" is required.", "INVALID_VALIDATOR"⟩

/-- One such failure for each captcha field at some positions, in their order. -/
def secretsMissing (positions : List Position) : List Failure :=
  (positions.filter fun p => p.field.isCaptcha).map fun _ => secretMissing

@[simp, grind =] theorem secretsMissing_append (ps qs : List Position) :
    secretsMissing (ps ++ qs) = secretsMissing ps ++ secretsMissing qs := by
  unfold secretsMissing
  rw [List.filter_append, List.map_append]

@[simp] theorem secretsMissing_under (i : Nat) (g : Field) (ps : List Position) :
    secretsMissing (ps.map (Position.under i g)) = secretsMissing ps := by
  unfold secretsMissing
  rw [List.filter_map, List.map_map]
  rfl

theorem secretsMissing_cons (p : Position) (ps : List Position) : secretsMissing (p :: ps) =
    (if p.field.isCaptcha then [secretMissing] else []) ++ secretsMissing ps := by
  unfold secretsMissing
  rw [List.filter_cons]
  cases p.field.isCaptcha <;> rfl

theorem rulesFailures_append (xs ys : List (Value × Rule)) :
    rulesFailures names (xs ++ ys) = do return (← rulesFailures names xs) ++
      (← rulesFailures names ys) := by
  induction xs with
  | nil =>
    show rulesFailures names ys = (do return [] ++ (← rulesFailures names ys))
    simp only [List.nil_append, bind_pure]
  | cons e xs ih =>
    obtain ⟨key, rule⟩ := e
    simp only [List.cons_append, rulesFailures, ih, bind_assoc, pure_bind, List.append_assoc]

theorem ruleFailures_ofSecret {k : String} (hk : k ≠ "") (s : String) :
    ruleFailures names RuleKind.captcha.key (.ofSecret (.text k) [] (.text s)) =
      .ok (if s = "" then [secretMissing] else []) := by
  have hsite : isFilledText (.text k) = true := isFilledText_iff.2 ⟨k, rfl, hk⟩
  have hsecret : isFilledText (.text s) = (s != "") := rfl
  show Except.ok ([] ++ (failUnless _ (isFilledText (.text k)) _ ++
    failUnless _ (isFilledText (.text s)) _)) = _
  rw [hsite, hsecret]
  by_cases hs : s = ""
  · subst hs
    rfl
  · rw [if_neg hs, bne_iff_ne.2 hs]
    rfl

theorem bagFailures_redact {b : RuleBag} (h : bagFailures names b = .ok [])
    (hcaptcha : RuleKind.captcha.key ∈ b.kinds) :
    bagFailures names b.redact = .ok [secretMissing] := by
  obtain ⟨before, after, k, s, hbefore, hk, hs, rfl⟩ :=
    ((bagFailures_eq_nil_iff h).1 rfl).exists_captcha hcaptcha
  have hemptied : (Value.text s).emptied = .text "" := if_pos (bne_iff_ne.2 hs)
  rw [RuleBag.redact_secret hbefore, hemptied]
  unfold bagFailures at h ⊢
  rw [rulesFailures_append, rulesFailures, ruleFailures_ofSecret hk] at h ⊢
  rw [if_neg hs] at h
  obtain ⟨here, hhere, h⟩ := bind_eq_ok.1 h
  obtain ⟨rest, hrest, h⟩ := bind_eq_ok.1 h
  obtain ⟨own, hown, hrest⟩ := bind_eq_ok.1 hrest
  obtain ⟨others, hothers, hrest⟩ := bind_eq_ok.1 hrest
  obtain rfl := Except.ok.inj hown
  obtain rfl := Except.ok.inj hrest
  obtain ⟨rfl, rfl⟩ := List.append_eq_nil_iff.1 (Except.ok.inj h)
  rw [hhere, hothers]
  rfl

/-- Fields that differ in nothing but rules of a captcha that are accepted, and what is reported of
those, differ in nothing else that is reported. -/
theorem commonFailures_redact {root : Bool} {a : Attributes} {b : RuleBag} (hb : a.rules = some b)
    (hcaptcha : RuleKind.captcha.key ∈ b.kinds) (h : commonFailures names root a = .ok []) :
    commonFailures names root { a with rules := some b.redact } = .ok [secretMissing] := by
  unfold commonFailures at h ⊢
  rw [hb] at h
  obtain ⟨own, hown, h⟩ := bind_eq_ok.1 h
  obtain ⟨rfl, hpublic⟩ := List.append_eq_nil_iff.1 (Except.ok.inj h)
  simp only [bagFailures_redact hown hcaptcha]
  exact congrArg (fun xs => Except.ok ([secretMissing] ++ xs)) hpublic

theorem fieldFailures_redact_captcha {root : Bool} {seen seen' : List String} {a : Attributes}
    (h : fieldFailures names root seen (.leaf .captcha a) = .ok ([], seen')) :
    fieldFailures names root seen (redact (.leaf .captcha a)) = .ok ([secretMissing], seen') := by
  unfold fieldFailures at h
  obtain ⟨⟨slug, seen₁⟩, hslug, h⟩ := bind_eq_ok.1 h
  obtain ⟨common, hcommon, h⟩ := bind_eq_ok.1 h
  obtain ⟨hnil, rfl⟩ := Prod.mk.inj (Except.ok.inj h)
  simp only [List.append_eq_nil_iff] at hnil
  obtain ⟨⟨⟨rfl, hname⟩, hvariant⟩, rfl⟩ := hnil
  obtain ⟨b, hb, hcaptcha⟩ : ∃ b, a.rules = some b ∧ RuleKind.captcha.key ∈ b.kinds :=
    (leafFailures_eq_nil_iff.1 hvariant).2.2.2 rfl
  have hredacted : variantFailures (.leaf .captcha { a with rules := some b.redact }) = [] := by
    refine if_pos ?_
    rw [Option.any_some, RuleBag.contains_key_iff, b.kinds_redact]
    exact hcaptcha
  have hname' : nameFailures { a with rules := some b.redact } = [] := hname
  rw [redact_captcha hb]
  unfold fieldFailures
  rw [hslug, hname', hredacted, commonFailures_redact hb hcaptcha hcommon]
  rfl

mutual

/-- A field that is accepted is reported, once redacted, for the secrets in it. -/
theorem fieldFailures_redact {root : Bool} {seen seen' : List String} {f : Field} (i : Nat)
    (h : fieldFailures names root seen f = .ok ([], seen')) :
    fieldFailures names root seen (redact f) =
      .ok (secretsMissing (⟨[i], [], f⟩ :: positionsBelow i f), seen') := by
  match f with
  | .group a children =>
    cases children with
    | nil =>
      -- a group without fields is never accepted
      unfold fieldFailures at h
      obtain ⟨⟨slug, seen₁⟩, _, h⟩ := bind_eq_ok.1 h
      obtain ⟨below, hbelow, h⟩ := bind_eq_ok.1 h
      obtain ⟨common, _, h⟩ := bind_eq_ok.1 h
      obtain rfl := Except.ok.inj hbelow
      have hnil := (Prod.mk.inj (Except.ok.inj h)).1
      simp at hnil
    | cons f fs =>
      unfold fieldFailures at h
      obtain ⟨⟨slug, seen₁⟩, hslug, h⟩ := bind_eq_ok.1 h
      obtain ⟨below, hbelow, h⟩ := bind_eq_ok.1 h
      obtain ⟨common, hcommon, h⟩ := bind_eq_ok.1 h
      obtain ⟨hnil, rfl⟩ := Prod.mk.inj (Except.ok.inj h)
      simp only [List.append_eq_nil_iff] at hnil
      obtain ⟨⟨⟨rfl, hname⟩, rfl⟩, rfl⟩ := hnil
      have hinside := siblingFailures_redactAll 0 hbelow
      have hsecrets : secretsMissing (⟨[i], [], .group a (f :: fs)⟩ ::
          positionsBelow i (.group a (f :: fs))) = secretsMissing (positionsFrom 0 (f :: fs)) := by
        rw [secretsMissing_cons, positionsBelow, secretsMissing_under]
        rfl
      show fieldFailures names root seen (.group a (redact f :: redactAll fs)) = _
      unfold fieldFailures
      rw [hslug, hname, hcommon, hsecrets]
      show (do
        let below ← siblingFailures names false [] (redactAll (f :: fs))
        return ([] ++ [] ++ below ++ [], seen₁)) = _
      rw [hinside]
      show Except.ok (_ ++ [], seen₁) = _
      rw [List.append_nil, List.nil_append, List.nil_append]
  | .leaf t a =>
    cases t with
    | captcha => exact fieldFailures_redact_captcha h
    | _ => exact h
  | .unknown v a => exact h
  | .select a choices => exact h
termination_by structural f

theorem siblingFailures_redactAll {root : Bool} {seen : List String} {fs : List Field} (i : Nat)
    (h : siblingFailures names root seen fs = .ok []) :
    siblingFailures names root seen (redactAll fs) = .ok (secretsMissing (positionsFrom i fs)) := by
  match fs with
  | [] => rfl
  | f :: fs =>
    unfold siblingFailures at h
    obtain ⟨⟨here, seen'⟩, hhere, h⟩ := bind_eq_ok.1 h
    obtain ⟨rest, hrest, h⟩ := bind_eq_ok.1 h
    obtain ⟨rfl, rfl⟩ := List.append_eq_nil_iff.1 (Except.ok.inj h)
    unfold redactAll siblingFailures
    rw [fieldFailures_redact i hhere]
    show (do return secretsMissing _ ++ (← siblingFailures names root seen' (redactAll fs))) = _
    rw [siblingFailures_redactAll (i + 1) hrest, positionsFrom, ← List.cons_append,
      secretsMissing_append]
    rfl
termination_by structural fs

end

/-- The report of accepted fields that are published: each captcha field in them, at whatever depth,
is reported once for the secret it has no more, each field before those inside it and before those
after it, and nothing else is. -/
theorem checkFields_redactAll {root : Bool} {fields : List Field} {report : Report}
    (h : checkFields names root fields = .ok report) (hvalid : report.isValid = true) :
    checkFields names root (redactAll fields) = .ok ⟨secretsMissing (positions fields)⟩ := by
  rw [checkFields_eq] at h ⊢
  cases fields with
  | nil =>
    cases h
    cases hvalid
  | cons f fs =>
    obtain ⟨failures, hfailures, h⟩ := bind_eq_ok.1 h
    obtain rfl := Except.ok.inj h
    obtain rfl := List.isEmpty_iff.1 hvalid
    rw [siblingFailures_redactAll 0 hfailures]
    rfl

def guardedForm : List Field :=
  let guard (slug secret : String) : Field := .leaf .captcha
    (.ofRules slug [(.captcha, .ofSecret (.text "site") [] (.text secret))])
  [guard "robot" "shh", .group (.ofRules "guest" []) [.leaf .text (.ofRules "name" []),
    guard "machine" "key"]]

/-- Both are reported for their secrets when the form is published. -/
theorem checkFields_redactAll_guardedForm :
    ∃ report, checkFields .none true guardedForm = .ok report ∧ report.isValid = true ∧
      checkFields .none true (redactAll guardedForm) = .ok ⟨[secretMissing, secretMissing]⟩ := by
  have hvalid : (checkFields .none true guardedForm).toOption.map Report.isValid = some true := by
    decide +kernel
  obtain ⟨report, hreport, hvalid⟩ := exists_of_toOption hvalid
  exact ⟨report, hreport, hvalid, checkFields_redactAll hreport hvalid⟩

end Definition

end Intake
