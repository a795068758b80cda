import Intake.Field.Redaction
import Intake.Proofs.Documents
import Intake.Proofs.Levels

/-! What redaction changes. It empties the secrets of captcha fields and changes nothing else, so
that fields which differ in nothing but such secrets cannot be told apart afterwards. -/

namespace Intake

def Rule.secret? : Rule → Option Value
  | .options ⟨.captcha _ secret, _⟩ => some secret
  | _ => none

def Rule.ofSecret (siteKey : Value) (extra : List (Value × Value)) (secret : Value) : Rule :=
  .options ⟨.captcha siteKey secret, extra⟩

/-- Secrets that are the same, or of which neither is empty. -/
def Value.AlikeSecret (s s' : Value) : Prop := s' = s ∨ s.truthy = true ∧ s'.truthy = true

def Value.emptied (s : Value) : Value := if s.truthy then .text "" else s

/-- The same rules in the same order, but for the secret of the rule for captchas, if it has one. -/
inductive RuleBag.SameBut (r : Value → Value → Prop) : RuleBag → RuleBag → Prop
  | without {b : RuleBag} (h : (b.get? RuleKind.captcha.key).bind Rule.secret? = none) :
      SameBut r b b
  | secret {before after : List (Value × Rule)} {siteKey s s' : Value}
    {extra : List (Value × Value)}
      (hbefore : ∀ e ∈ before, e.1 ≠ RuleKind.captcha.key) (h : r s s') :
      SameBut r ⟨before ++ (RuleKind.captcha.key, .ofSecret siteKey extra s) :: after⟩
        ⟨before ++ (RuleKind.captcha.key, .ofSecret siteKey extra s') :: after⟩

namespace Field

mutual

/-- The same field with all that is in it, but for the secrets of captcha fields. -/
inductive SameBut (r : Value → Value → Prop) : Field → Field → Prop
  | captcha {a : Attributes} {b b' : RuleBag} (hb : a.rules = some b) (h : RuleBag.SameBut r b b') :
      SameBut r (.leaf .captcha a) (.leaf .captcha { a with rules := some b' })
  | group {a : Attributes} {children children' : List Field}
      (h : AllSameBut r children children') : SameBut r (.group a children) (.group a children')
  | same {f : Field} (hrules : f.isCaptcha = true → f.rules = none) (hgroup : f.isGroup = false) :
      SameBut r f f

inductive AllSameBut (r : Value → Value → Prop) : List Field → List Field → Prop
  | nil : AllSameBut r [] []
  | cons {f g : Field} {fs gs : List Field} (h : SameBut r f g) (hrest : AllSameBut r fs gs) :
      AllSameBut r (f :: fs) (g :: gs)

end

end Field

theorem Value.AlikeSecret.emptied_eq {s s' : Value} (h : s.AlikeSecret s') :
    s'.emptied = s.emptied := by
  rcases h with rfl | ⟨hs, hs'⟩
  · rfl
  · unfold emptied
    rw [hs, hs']
    rfl

@[simp, grind =] theorem Value.emptied_emptied (s : Value) : s.emptied.emptied = s.emptied := by
  unfold emptied
  cases hs : s.truthy with
  | true => rfl
  | false => simp [hs]

namespace RuleBag

variable {before after : List (Value × Rule)} {siteKey s : Value} {extra : List (Value × Value)}

theorem get?_split (hbefore : ∀ e ∈ before, e.1 ≠ RuleKind.captcha.key) (rule : Rule) :
    get? ⟨before ++ (RuleKind.captcha.key, rule) :: after⟩ RuleKind.captcha.key = some rule := by
  induction before with
  | nil => exact (get?_cons _ _ _).trans (if_pos (Value.text_equal_iff.2 rfl))
  | cons e before ih =>
    rw [List.forall_mem_cons] at hbefore
    have hne : ¬ RuleKind.captcha.key.equal e.1 = true :=
      fun hequal => hbefore.1 (Value.text_equal_iff.1 hequal)
    rw [List.cons_append, get?_cons, if_neg hne]
    exact ih hbefore.2

theorem insert_split (hbefore : ∀ e ∈ before, e.1 ≠ RuleKind.captcha.key) (rule rule' : Rule) :
    insert ⟨before ++ (RuleKind.captcha.key, rule) :: after⟩ RuleKind.captcha.key rule' =
      ⟨before ++ (RuleKind.captcha.key, rule') :: after⟩ := by
  induction before with
  | nil => exact (insert_cons _ _ _ _).trans (if_pos (Value.text_equal_iff.2 rfl))
  | cons e before ih =>
    rw [List.forall_mem_cons] at hbefore
    have hne : ¬ RuleKind.captcha.key.equal e.1 = true :=
      fun hequal => hbefore.1 (Value.text_equal_iff.1 hequal)
    rw [List.cons_append, insert_cons, if_neg hne, ih hbefore.2]
    rfl

theorem secret_cases (b : RuleBag) :
    (b.get? RuleKind.captcha.key).bind Rule.secret? = none ∨
      ∃ before siteKey extra s after, (∀ e ∈ before, e.1 ≠ RuleKind.captcha.key) ∧
        b = ⟨before ++ (RuleKind.captcha.key, .ofSecret siteKey extra s) :: after⟩ := by
  obtain ⟨rules⟩ := b
  induction rules with
  | nil => exact .inl rfl
  | cons e rules ih =>
    obtain ⟨key, rule⟩ := e
    rw [get?_cons]
    by_cases hkey : RuleKind.captcha.key.equal key = true
    · obtain rfl : key = RuleKind.captcha.key := Value.text_equal_iff.1 hkey
      rw [if_pos hkey]
      cases rule with
      | plain v => exact .inl rfl
      | options o =>
        obtain ⟨options, extra⟩ := o
        cases options with
        | captcha siteKey s => exact .inr ⟨[], siteKey, extra, s, rules, nofun, rfl⟩
        | _ => exact .inl rfl
    · rw [if_neg hkey]
      refine ih.imp_right ?_
      rintro ⟨before, siteKey, extra, s, after, hbefore, heq⟩
      obtain rfl := RuleBag.mk.inj heq
      refine ⟨(key, rule) :: before, siteKey, extra, s, after, ?_, rfl⟩
      exact List.forall_mem_cons.2 ⟨fun h => hkey (Value.text_equal_iff.2 h), hbefore⟩

theorem redact_without {b : RuleBag}
    (h : (b.get? RuleKind.captcha.key).bind Rule.secret? = none) : b.redact = b := by
  unfold redact
  cases hrule : b.get? RuleKind.captcha.key with
  | none => rfl
  | some rule =>
    rw [hrule] at h
    have hno : rule.hasSecret = false := by
      cases rule with
      | plain v => rfl
      | options o =>
        obtain ⟨options, extra⟩ := o
        cases options with
        | captcha siteKey s => cases h
        | _ => rfl
    simp [hno]

theorem redact_secret (hbefore : ∀ e ∈ before, e.1 ≠ RuleKind.captcha.key) :
    redact ⟨before ++ (RuleKind.captcha.key, .ofSecret siteKey extra s) :: after⟩ =
      ⟨before ++ (RuleKind.captcha.key, .ofSecret siteKey extra s.emptied) :: after⟩ := by
  have hsecret : (Rule.ofSecret siteKey extra s).hasSecret = s.truthy := rfl
  have hblank : (Rule.ofSecret siteKey extra s).blankSecret = .ofSecret siteKey extra (.text "") :=
    rfl
  unfold redact Value.emptied
  rw [get?_split hbefore]
  simp only [hsecret, hblank, insert_split hbefore]
  cases s.truthy <;> rfl

theorem SameBut.redact_eq {b b' : RuleBag} (h : SameBut Value.AlikeSecret b b') :
    b.redact = b'.redact := by
  cases h with
  | without h => rfl
  | secret hbefore h => rw [redact_secret hbefore, redact_secret hbefore, h.emptied_eq]

theorem sameBut_redact (b : RuleBag) : SameBut (fun s s' => s' = s.emptied) b b.redact := by
  rcases b.secret_cases with h | ⟨before, siteKey, extra, s, after, hbefore, rfl⟩
  · rw [redact_without h]
    exact .without h
  · rw [redact_secret hbefore]
    exact .secret hbefore rfl

@[simp, grind =] theorem redact_redact (b : RuleBag) : b.redact.redact = b.redact := by
  rcases b.secret_cases with h | ⟨before, siteKey, extra, s, after, hbefore, rfl⟩
  · rw [redact_without h, redact_without h]
  · rw [redact_secret hbefore, redact_secret hbefore, s.emptied_emptied]

end RuleBag

namespace Field

theorem redact_of_same {f : Field} (hrules : f.isCaptcha = true → f.rules = none)
    (hgroup : f.isGroup = false) : redact f = f := by
  cases f with
  | group a children => cases hgroup
  | leaf t a =>
    cases t with
    | captcha =>
      obtain ⟨slug, displayName, description, placeholder, initial, suggestions, allowMultiple,
        rules,
        isPublic⟩ := a
      obtain rfl : rules = none := hrules rfl
      rfl
    | _ => rfl
  | _ => rfl

theorem redact_captcha {a : Attributes} {b : RuleBag} (hb : a.rules = some b) :
    redact (.leaf .captcha a) = .leaf .captcha { a with rules := some b.redact } := by
  unfold redact
  rw [hb]
  rfl

theorem leaf_cases {f : Field} (hgroup : f.isGroup = false) :
    (∃ a b, f = .leaf .captcha a ∧ a.rules = some b) ∨ (f.isCaptcha = true → f.rules = none) := by
  cases f with
  | leaf t a =>
    cases hrules : a.rules with
    | none => exact .inr fun _ => hrules
    | some b => cases t with
      | captcha => exact .inl ⟨a, b, rfl, hrules⟩
      | _ => exact .inr nofun
  | group a children => cases hgroup
  | _ => exact .inr nofun

mutual

theorem SameBut.redact_eq {f g : Field} (h : SameBut Value.AlikeSecret f g) :
    redact f = redact g := by
  match h with
  | .captcha hb h => rw [redact_captcha hb, redact_captcha rfl, h.redact_eq]
  | .group h =>
    unfold redact
    rw [h.redactAll_eq]
  | .same _ _ => rfl
termination_by structural h

theorem AllSameBut.redactAll_eq {fs gs : List Field} (h : AllSameBut Value.AlikeSecret fs gs) :
    redactAll fs = redactAll gs := by
  match h with
  | .nil => rfl
  | .cons h hrest =>
    unfold redactAll
    rw [h.redact_eq, hrest.redactAll_eq]
termination_by structural h

end

theorem sameBut_redact_leaf {f : Field} (hgroup : f.isGroup = false) :
    SameBut (fun s s' => s' = s.emptied) f (redact f) ∧ redact (redact f) = redact f := by
  rcases leaf_cases hgroup with ⟨a, b, rfl, hb⟩ | hrules
  · rw [redact_captcha hb, redact_captcha rfl, b.redact_redact]
    exact ⟨.captcha hb b.sameBut_redact, rfl⟩
  · rw [redact_of_same hrules hgroup, redact_of_same hrules hgroup]
    exact ⟨.same hrules hgroup, rfl⟩

mutual

/-- Redaction empties the secrets of captcha fields and keeps all else, and has nothing left to do.
-/
theorem sameBut_redact (f : Field) :
    SameBut (fun s s' => s' = s.emptied) f (redact f) ∧ redact (redact f) = redact f := by
  match f with
  | .group a children =>
    obtain ⟨hsame, hagain⟩ := allSameBut_redactAll children
    have hredact : ∀ cs, redact (.group a cs) = .group a (redactAll cs) := fun _ => rfl
    refine ⟨.group hsame, ?_⟩
    rw [hredact, hredact, hagain]
  | .leaf t a => exact sameBut_redact_leaf rfl
  | .unknown t a => exact sameBut_redact_leaf rfl
  | .select a choices => exact sameBut_redact_leaf rfl
termination_by structural f

theorem allSameBut_redactAll (fs : List Field) :
    AllSameBut (fun s s' => s' = s.emptied) fs (redactAll fs) ∧
      redactAll (redactAll fs) = redactAll fs := by
  match fs with
  | [] => exact ⟨.nil, rfl⟩
  | f :: fs =>
    obtain ⟨hfirst, hfirst'⟩ := sameBut_redact f
    obtain ⟨hrest, hrest'⟩ := allSameBut_redactAll fs
    have hredact : ∀ g gs, redactAll (g :: gs) = redact g :: redactAll gs := fun _ _ => rfl
    refine ⟨.cons hfirst hrest, ?_⟩
    rw [hredact, hredact, hfirst', hrest']
termination_by structural fs

end

def SameSlot (s s' : String × Option Value) : Prop :=
  s'.1 = s.1 ∧ (s'.2 = s.2 ∨ (s.1 = "validators" ∨ s.1 = "fields") ∧ s'.2.isSome = s.2.isSome)

def SameEntry (e e' : Value × Value) : Prop :=
  e'.1 = e.1 ∧ (e'.2 = e.2 ∨ e.1 = .text "validators" ∨ e.1 = .text "fields")

theorem SameSlot.entry {s s' : String × Option Value} (h : SameSlot s s') :
    List.Forall₂ SameEntry (Value.slotEntry s) (Value.slotEntry s') := by
  obtain ⟨name, v⟩ := s
  obtain ⟨name', v'⟩ := s'
  obtain ⟨rfl, rfl | ⟨hname, hsome⟩⟩ := h
  · exact List.forall₂_same.2 fun e _ => ⟨rfl, .inl rfl⟩
  · cases v <;> cases v' <;> cases hsome
    · exact .nil
    · exact .cons ⟨rfl, .inr (hname.imp (congrArg Value.text) (congrArg Value.text))⟩ .nil

theorem SameBut.sameSlots {r : Value → Value → Prop} {f g : Field} (h : SameBut r f g) :
    List.Forall₂ SameSlot f.slots g.slots := by
  have hsame : ∀ s, SameSlot s s := fun _ => ⟨rfl, .inl rfl⟩
  have hrefl : ∀ slots, List.Forall₂ SameSlot slots slots :=
    fun _ => List.forall₂_same.2 fun s _ => hsame s
  cases h with
  | @captcha a b b' hb h =>
    have hrules : SameSlot ("validators", a.rules.map RuleBag.toValue)
        ("validators", (some b').map RuleBag.toValue) := by
      rw [hb]
      exact ⟨rfl, .inr ⟨.inl rfl, rfl⟩⟩
    refine List.rel_append ?_ (hrefl _)
    -- the rules stand in the ninth place
    iterate 8 refine .cons (hsame _) ?_
    exact .cons hrules (hrefl _)
  | group h =>
    exact List.rel_append (hrefl _) (.cons ⟨rfl, .inr ⟨.inr rfl, rfl⟩⟩ .nil)
  | same hrules hgroup => exact hrefl _

theorem SameBut.sameEntries {r : Value → Value → Prop} {f g : Field} (h : SameBut r f g) :
    List.Forall₂ SameEntry f.toEntries g.toEntries := by
  rw [toEntries_eq, toEntries_eq]
  exact List.rel_flatMap h.sameSlots fun _ _ hslot => hslot.entry

/-- Fields that differ in nothing but given secrets of captcha fields, at whatever depth, are
redacted to the same fields. Redaction keeps every field with all that is in it, in its place and
under the same names in its document, but for the secrets that are given, which become empty;
redacting again changes nothing. -/
theorem redactAll_hidesSecrets (fs : List Field) :
    (∀ gs, AllSameBut Value.AlikeSecret fs gs → redactAll fs = redactAll gs) ∧
      AllSameBut (fun s s' => s' = s.emptied) fs (redactAll fs) ∧
      (∀ f ∈ fs, List.Forall₂ SameEntry f.toEntries (redact f).toEntries) ∧
      redactAll (redactAll fs) = redactAll fs := by
  obtain ⟨hsame, hagain⟩ := allSameBut_redactAll fs
  exact ⟨fun _ h => h.redactAll_eq, hsame, fun f _ => (sameBut_redact f).1.sameEntries, hagain⟩

def guardedGroup (secret : String) : Field :=
  .group (.ofRules "guest" []) [.leaf .captcha (.ofRules "robot"
    [(.required, .plain (.bool true)),
      (.captcha, .ofSecret (.text "site") [(.text "theme", .text "dark")] (.text secret)),
      (.array, .plain (.bool true))])]

/-- Two such groups with a secret each are redacted to the group with the empty secret. -/
theorem redactAll_hidesSecrets_guardedGroup :
    redactAll [guardedGroup "shh"] = redactAll [guardedGroup "key"] ∧
      redactAll [guardedGroup "shh"] = [guardedGroup ""] := by
  obtain ⟨halike, -⟩ := redactAll_hidesSecrets [guardedGroup "shh"]
  have hgiven : Value.AlikeSecret (.text "shh") (.text "key") := .inr ⟨rfl, rfl⟩
  have hbefore : ∀ e ∈ [(RuleKind.required.key, Rule.plain (.bool true))],
      e.1 ≠ RuleKind.captcha.key := by
    intro e he
    obtain rfl := List.mem_singleton.1 he
    exact fun h => absurd (Value.text.inj h) (by decide)
  exact ⟨halike _ (.cons (.group (.cons (.captcha rfl (.secret hbefore hgiven)) .nil)) .nil), rfl⟩

end Field

end Intake
