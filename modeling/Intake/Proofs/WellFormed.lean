import Intake.Definition.Rules
import Intake.Proofs.Values

/-! Rules that make sense, told without the check: which kinds take options, and which options each
of them may be set to. The check of a rule reports nothing for exactly these. -/

namespace Intake

open Number (Binary64)

namespace Value

/-- A bound may be left out; else it is a number that is not less than `floor`, if there is one. -/
def IsBound (floor : Option Int) (v : Value) : Prop :=
  v = .null ∨ ∃ x, v.toNumber = .ok (some x) ∧ ∀ n, floor = some n → x.lt (.ofInt n) = false

def NotGreater (v w : Value) : Prop :=
  ∀ x y, v.toNumber = .ok (some x) → w.toNumber = .ok (some y) → x.gt y = false

def IsPattern (names : Pattern.Names) (v : Value) : Prop := ∃ p, v.toPattern names = .ok p

def IsFilled (v : Value) : Prop := ∃ s, v = .text s ∧ s ≠ ""

end Value

def Options.Suits (names : Pattern.Names) (o : Options) (kind : RuleKind) : Prop :=
  match kind, o with
  | .string, .length min max | .array, .length min max =>
    min.IsBound (some 0) ∧ max.IsBound (some 1) ∧ min.NotGreater max
  | .number, .number min max => min.IsBound none ∧ max.IsBound none ∧ min.NotGreater max
  | .email, .email restrictions =>
    ∃ rs, restrictions = .list rs ∧ rs ≠ [] ∧ ∀ r ∈ rs, r.IsPattern names
  | .phone, .phone requirements => ∃ rs, requirements = .list rs ∧ rs ≠ []
  | .file, .file mimeTypes maxBytes =>
    ∃ limit, maxBytes.toNumber = .ok limit ∧
      ((∃ ms, mimeTypes = .list ms) ∨ ∃ x, limit = some x ∧ x.lt (.ofInt 0) = false)
  | .captcha, .captcha siteKey secret => siteKey.IsFilled ∧ secret.IsFilled
  | .address, .address countries states => countries.truthy = true ∨ states.truthy = true
  | _, _ => False

/-- What a rule of a kind may be set to. Some kinds take anything; some take true or options, and
some options only; only addresses may have entries beside their options. -/
def Rule.WellFormed (names : Pattern.Names) (r : Rule) (kind : RuleKind) : Prop :=
  match kind with
  | .required | .boolean | .values | .group => True
  | .string | .array | .number | .email | .phone =>
    r = .plain (.bool true) ∨ ∃ o, r = .options ⟨o, []⟩ ∧ o.Suits names kind
  | .file | .captcha => ∃ o, r = .options ⟨o, []⟩ ∧ o.Suits names kind
  | .address => ∃ o extra, r = .options ⟨o, extra⟩ ∧ o.Suits names kind
  | .minAge => ∃ v x, r = .plain v ∧ v.toNumber = .ok (some x)

def RuleBag.WellFormed (names : Pattern.Names) (b : RuleBag) : Prop :=
  ∀ e ∈ b.rules, ∃ kind : RuleKind, e.1 = kind.key ∧ e.2.WellFormed names kind

theorem RuleBag.WellFormed.rule {names : Pattern.Names} {b : RuleBag} (h : b.WellFormed names)
    {kind : RuleKind} {r : Rule}
    (hr : (kind.key, r) ∈ b.rules) : r.WellFormed names kind := by
  obtain ⟨kind', hkey, hrule⟩ := h _ hr
  obtain rfl := RuleKind.key_injective hkey
  exact hrule

namespace Definition

@[simp] theorem failUnless_eq_nil_iff {kind : Value} {holds : Bool} {detail : String} :
    failUnless kind holds detail = [] ↔ holds = true := by
  cases holds <;> simp [failUnless]

@[simp] theorem extraFailures_eq_nil_iff {kind : Value} {o : OptionMap} :
    extraFailures kind o = [] ↔ o.extra = [] := by
  obtain ⟨o, _ | ⟨e, es⟩⟩ := o <;> simp [extraFailures]

@[simp] theorem isFilledText_iff {v : Value} : isFilledText v = true ↔ v.IsFilled := by
  unfold isFilledText Value.IsFilled
  cases v <;> simp [Value.text?]

theorem given_iff {v : Value} {number : Option Binary64} (h : bound v = .ok number)
    (p : Binary64 → Bool) :
    (v.isNull || number.any p) = true ↔
      v = .null ∨ ∃ x, v.toNumber = .ok (some x) ∧ p x = true := by
  cases hv : v.isNull with
  | true =>
    cases v with
    | null => simp
    | _ => simp [Value.isNull] at hv
  | false =>
    have hne : v ≠ .null := by
      rintro rfl
      simp [Value.isNull] at hv
    rw [bound, hv, if_neg (by simp)] at h
    rw [h]
    cases number <;> simp [hne]

theorem isBound_iff {v : Value} {number : Option Binary64} {floor : Int}
    (h : bound v = .ok number) :
    isBound v number floor = true ↔ v.IsBound (some floor) := by
  unfold isBound Value.IsBound
  rw [given_iff h]
  simp

theorem isSome_iff {v : Value} {number : Option Binary64} (h : bound v = .ok number) :
    (v.isNull || number.isSome) = true ↔ v.IsBound none := by
  have hsome : number.isSome = number.any fun _ => true := by cases number <;> rfl
  unfold Value.IsBound
  rw [hsome, given_iff h]
  simp

theorem toNumber_of_bound {v : Value} {number : Option Binary64} (h : bound v = .ok number) :
    v.toNumber = .ok number := by
  unfold bound at h
  split at h
  · rename_i hv
    cases v with
    | null => exact h
    | _ => simp [Value.isNull] at hv
  · exact h

theorem inOrder_iff {v w : Value} {least greatest : Option Binary64}
    (hv : bound v = .ok least) (hw : bound w = .ok greatest) :
    inOrder least greatest = true ↔ v.NotGreater w := by
  unfold Value.NotGreater
  rw [toNumber_of_bound hv, toNumber_of_bound hw]
  cases least <;> cases greatest <;> simp [inOrder]

section
variable {kind : Value} {check : Options → Except Fault (Option (List Failure))} {xs : List Failure}
  {p : Options → Prop} (hp : ∀ o r, check o = .ok r → (r = some [] ↔ p o))
include hp

theorem optionFailures_eq_nil_iff {o : OptionMap} {refused : Failure}
    (h : (do match ← check o.options with
      | some failures => return extraFailures kind o ++ failures
      | none => return [refused]) = Except.ok xs) :
    xs = [] ↔ ∃ o', Rule.options o = .options ⟨o', []⟩ ∧ p o' := by
  obtain ⟨options, extra⟩ := o
  obtain ⟨r, hr, hrest⟩ := bind_eq_ok.1 h
  have hsuits := hp options r hr
  cases r with
  | none =>
    cases hrest
    have hno : ¬ p options := fun h => absurd (hsuits.2 h) (by simp)
    simp [hno]
  | some failures =>
    cases hrest
    rw [Option.some.injEq] at hsuits
    rw [List.append_eq_nil_iff, extraFailures_eq_nil_iff, hsuits]
    constructor
    · rintro ⟨hextra, hp'⟩
      obtain rfl : extra = [] := hextra
      exact ⟨options, rfl, hp'⟩
    · rintro ⟨o', heq, hp'⟩
      cases heq
      exact ⟨rfl, hp'⟩

theorem withOptions_eq_nil_iff {rule : Rule} (h : withOptions kind rule check = .ok xs) :
    xs = [] ↔ rule = .plain (.bool true) ∨ ∃ o, rule = .options ⟨o, []⟩ ∧ p o := by
  cases rule with
  | plain v =>
    cases v with
    | bool b => cases b <;> cases h <;> simp
    | _ =>
      cases h
      simp
  | options o =>
    rw [optionFailures_eq_nil_iff hp h]
    simp

theorem onlyOptions_eq_nil_iff {rule : Rule} (h : onlyOptions kind rule check = .ok xs) :
    xs = [] ↔ ∃ o, rule = .options ⟨o, []⟩ ∧ p o := by
  cases rule with
  | plain v =>
    cases h
    simp
  | options o => exact optionFailures_eq_nil_iff hp h

end

variable {names : Pattern.Names} {key : Value} {o : Options} {r : Option (List Failure)}

theorem lengthOptions_eq_iff {kind : RuleKind} (hk : kind = .string ∨ kind = .array)
    (h : lengthOptions key o = .ok r) : r = some [] ↔ o.Suits names kind := by
  cases o with
  | length min max =>
    obtain ⟨least, hleast, h⟩ := bind_eq_ok.1 h
    obtain ⟨greatest, hgreatest, h⟩ := bind_eq_ok.1 h
    cases h
    rcases hk with rfl | rfl <;>
      simp only [Option.some.injEq, List.append_eq_nil_iff, failUnless_eq_nil_iff,
        isBound_iff hleast,
        isBound_iff hgreatest, inOrder_iff hleast hgreatest, Options.Suits, and_assoc]
  | _ =>
    cases h
    rcases hk with rfl | rfl <;> simp [Options.Suits]

theorem numberOptions_eq_iff (h : numberOptions key o = .ok r) :
    r = some [] ↔ o.Suits names .number := by
  cases o with
  | number min max =>
    obtain ⟨least, hleast, h⟩ := bind_eq_ok.1 h
    obtain ⟨greatest, hgreatest, h⟩ := bind_eq_ok.1 h
    cases h
    simp only [Option.some.injEq, List.append_eq_nil_iff, failUnless_eq_nil_iff, isSome_iff hleast,
      isSome_iff hgreatest, inOrder_iff hleast hgreatest, Options.Suits, and_assoc]
  | _ =>
    cases h
    simp [Options.Suits]

theorem phoneOptions_eq_iff (h : phoneOptions key o = .ok r) :
    r = some [] ↔ o.Suits names .phone := by
  cases o with
  | phone requirements =>
    cases h
    rw [Option.some.injEq, failUnless_eq_nil_iff]
    cases requirements <;> simp [isFilledList, Options.Suits]
  | _ =>
    cases h
    simp [Options.Suits]

theorem isPattern_iff {v : Value} {holds : Bool} (h : isPattern names v = .ok holds) :
    holds = true ↔ v.IsPattern names := by
  unfold isPattern at h
  unfold Value.IsPattern
  split at h <;> cases h <;> simp_all

theorem restrictionFailure_eq_nil_iff {v : Value} {xs : List Failure}
    (h : restrictionFailure names key v = .ok xs) : xs = [] ↔ v.IsPattern names := by
  obtain ⟨holds, hholds, h⟩ := bind_eq_ok.1 h
  rw [← isPattern_iff hholds]
  cases holds with
  | true =>
    cases h
    simp
  | false =>
    obtain ⟨s, _, h⟩ := bind_eq_ok.1 h
    cases h
    simp

theorem restrictionFailures_eq_nil_iff {rs : List Value} {xs : List Failure}
    (h : restrictionFailures names key rs = .ok xs) : xs = [] ↔ ∀ r ∈ rs, r.IsPattern names := by
  induction rs generalizing xs with
  | nil =>
    cases h
    simp
  | cons r rs ih =>
    obtain ⟨here, hhere, h⟩ := bind_eq_ok.1 h
    obtain ⟨rest, hrest, h⟩ := bind_eq_ok.1 h
    cases h
    rw [List.append_eq_nil_iff, restrictionFailure_eq_nil_iff hhere, ih hrest,
      List.forall_mem_cons]

theorem emailOptions_eq_iff (h : emailOptions names key o = .ok r) :
    r = some [] ↔ o.Suits names .email := by
  cases o with
  | email restrictions =>
    cases restrictions with
    | list rs =>
      cases rs with
      | nil =>
        cases h
        simp [Options.Suits]
      | cons r rs =>
        simp only [emailOptions, map_eq_pure_bind] at h
        obtain ⟨xs, hxs, h⟩ := bind_eq_ok.1 h
        cases h
        rw [Option.some.injEq, restrictionFailures_eq_nil_iff hxs]
        simp [Options.Suits]
    | _ =>
      cases h
      simp [Options.Suits]
  | _ =>
    cases h
    simp [Options.Suits]

theorem fileOptions_eq_iff (h : fileOptions key o = .ok r) : r = some [] ↔ o.Suits names .file := by
  cases o with
  | file mimeTypes maxBytes =>
    obtain ⟨limit, hlimit, h⟩ := bind_eq_ok.1 h
    cases h
    have hlist : mimeTypes.isList = true ↔ ∃ ms, mimeTypes = .list ms := by
      cases mimeTypes <;> simp [Value.isList]
    rw [Option.some.injEq, failUnless_eq_nil_iff, Bool.or_eq_true, hlist]
    simp only [Options.Suits, hlimit, Except.ok.injEq, exists_eq_left']
    cases limit <;> simp
  | _ =>
    cases h
    simp [Options.Suits]

theorem captchaOptions_eq_iff (h : captchaOptions key o = .ok r) :
    r = some [] ↔ o.Suits names .captcha := by
  cases o with
  | captcha siteKey secret =>
    cases h
    rw [Option.some.injEq, List.append_eq_nil_iff, failUnless_eq_nil_iff, failUnless_eq_nil_iff,
      isFilledText_iff, isFilledText_iff]
    rfl
  | _ =>
    cases h
    simp [Options.Suits]

@[simp] theorem addressFailures_eq_nil_iff {rule : Rule} :
    addressFailures key rule = [] ↔ rule.WellFormed names .address := by
  unfold addressFailures
  split
  · rename_i countries states extra
    rw [failUnless_eq_nil_iff, Bool.or_eq_true]
    constructor
    · exact fun h => ⟨.address countries states, extra, rfl, h⟩
    · rintro ⟨_, _, heq, h⟩
      cases heq
      exact h
  · rename_i hne
    simp only [List.cons_ne_nil, false_iff]
    rintro ⟨o, extra, rfl, h⟩
    cases o with
    | address countries states => exact hne countries states extra rfl
    | _ => exact h

theorem minAgeFailures_eq_nil_iff {rule : Rule} {xs : List Failure}
    (h : minAgeFailures key rule = .ok xs) : xs = [] ↔ rule.WellFormed names .minAge := by
  cases rule with
  | plain v =>
    obtain ⟨number, hnumber, h⟩ := bind_eq_ok.1 h
    cases number with
    | none =>
      obtain ⟨s, _, h⟩ := bind_eq_ok.1 h
      cases h
      simp [Rule.WellFormed, hnumber]
    | some x =>
      cases h
      simp [Rule.WellFormed, hnumber]
  | options o =>
    obtain ⟨s, _, h⟩ := bind_eq_ok.1 h
    cases h
    simp [Rule.WellFormed]

theorem ruleFailures_eq_nil_iff {rule : Rule} {xs : List Failure}
    (h : ruleFailures names key rule = .ok xs) :
    xs = [] ↔ ∃ kind : RuleKind, key = kind.key ∧ rule.WellFormed names kind := by
  unfold ruleFailures at h
  cases hkind : RuleKind.ofKey? key with
  | none =>
    rw [hkind] at h
    obtain ⟨name, _, h⟩ := bind_eq_ok.1 h
    cases h
    simp only [List.cons_ne_nil, false_iff, not_exists, not_and]
    rintro kind rfl
    rw [RuleKind.ofKey?_eq_some_iff.2 rfl] at hkind
    cases hkind
  | some kind =>
    rw [hkind] at h
    obtain rfl := RuleKind.ofKey?_eq_some_iff.1 hkind
    have hfor : (∃ kind' : RuleKind, kind.key = kind'.key ∧ rule.WellFormed names kind') ↔
        rule.WellFormed names kind := by
      constructor
      · rintro ⟨kind', heq, hrule⟩
        obtain rfl := RuleKind.key_injective heq
        exact hrule
      · exact fun hrule => ⟨kind, rfl, hrule⟩
    rw [hfor]
    cases kind with
    | required | boolean | values | group =>
      cases h
      simp [Rule.WellFormed]
    | string => exact withOptions_eq_nil_iff (fun _ _ => lengthOptions_eq_iff (.inl rfl)) h
    | array => exact withOptions_eq_nil_iff (fun _ _ => lengthOptions_eq_iff (.inr rfl)) h
    | number => exact withOptions_eq_nil_iff (fun _ _ => numberOptions_eq_iff) h
    | phone => exact withOptions_eq_nil_iff (fun _ _ => phoneOptions_eq_iff) h
    | email => exact withOptions_eq_nil_iff (fun _ _ => emailOptions_eq_iff) h
    | file => exact onlyOptions_eq_nil_iff (fun _ _ => fileOptions_eq_iff) h
    | captcha => exact onlyOptions_eq_nil_iff (fun _ _ => captchaOptions_eq_iff) h
    | minAge => exact minAgeFailures_eq_nil_iff h
    | address =>
      cases h
      exact addressFailures_eq_nil_iff

theorem rulesFailures_eq_nil_iff {rules : List (Value × Rule)} {xs : List Failure}
    (h : rulesFailures names rules = .ok xs) :
    xs = [] ↔ ∀ e ∈ rules, ∃ kind : RuleKind, e.1 = kind.key ∧ e.2.WellFormed names kind := by
  induction rules generalizing xs with
  | nil =>
    cases h
    simp
  | cons e rules ih =>
    obtain ⟨here, hhere, h⟩ := bind_eq_ok.1 h
    obtain ⟨rest, hrest, h⟩ := bind_eq_ok.1 h
    cases h
    rw [List.append_eq_nil_iff, ruleFailures_eq_nil_iff hhere, ih hrest, List.forall_mem_cons]

theorem bagFailures_eq_nil_iff {b : RuleBag} {xs : List Failure}
    (h : bagFailures names b = .ok xs) :
    xs = [] ↔ b.WellFormed names :=
  rulesFailures_eq_nil_iff h

end Definition

end Intake
