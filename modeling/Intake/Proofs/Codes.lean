import Intake.Definition.Fields
import Intake.Proofs.Values

/-! The codes of what is reported of a definition. All that is wrong with rules has one code, and
the code for a slug that is declared twice is that of nothing else. -/

namespace Intake.Definition

variable {names : Pattern.Names}

def AreOfRules (xs : List Failure) : Prop := ∀ x ∈ xs, x.code = "INVALID_VALIDATOR"

theorem AreOfRules.append {xs ys : List Failure} (hxs : AreOfRules xs) (hys : AreOfRules ys) :
    AreOfRules (xs ++ ys) := List.forall_mem_append.2 ⟨hxs, hys⟩

theorem areOfRules_invalid (kind : Value) (detail : String) : AreOfRules [invalid kind detail] :=
  List.forall_mem_singleton.2 rfl

theorem areOfRules_failUnless (kind : Value) (holds : Bool) (detail : String) :
    AreOfRules (failUnless kind holds detail) := by
  cases holds with
  | true => exact nofun
  | false => exact areOfRules_invalid kind detail

theorem areOfRules_bounds (kind : Value) (low high ordered : Bool) (lowDetail highDetail
    orderDetail : String) : AreOfRules (failUnless kind low lowDetail ++
      failUnless kind high highDetail ++ failUnless kind ordered orderDetail) :=
  ((areOfRules_failUnless kind low lowDetail).append
    (areOfRules_failUnless kind high highDetail)).append
    (areOfRules_failUnless kind ordered orderDetail)

theorem areOfRules_extraFailures (kind : Value) (o : OptionMap) :
    AreOfRules (extraFailures kind o) := by
  unfold extraFailures
  split
  · exact nofun
  · exact areOfRules_invalid kind _

section
variable {kind : Value} {rule : Rule} {check : Options → Except Fault (Option (List Failure))}
  {xs : List Failure} (hcheck : ∀ o ys, check o = .ok (some ys) → AreOfRules ys)
include hcheck

theorem areOfRules_options {o : OptionMap} {detail : String}
    (h : (do match ← check o.options with
      | some failures => return extraFailures kind o ++ failures
      | none => return [invalid kind detail]) = Except.ok xs) : AreOfRules xs := by
  obtain ⟨r, hr, h⟩ := bind_eq_ok.1 h
  cases r with
  | none =>
    obtain rfl := Except.ok.inj h
    exact areOfRules_invalid kind detail
  | some failures =>
    obtain rfl := Except.ok.inj h
    exact (areOfRules_extraFailures kind o).append (hcheck _ _ hr)

theorem areOfRules_withOptions (h : withOptions kind rule check = .ok xs) : AreOfRules xs := by
  cases rule with
  | plain v =>
    unfold withOptions at h
    split at h
    · obtain rfl := Except.ok.inj h
      exact nofun
    · obtain rfl := Except.ok.inj h
      exact areOfRules_invalid kind _
  | options o => exact areOfRules_options hcheck h

theorem areOfRules_onlyOptions (h : onlyOptions kind rule check = .ok xs) : AreOfRules xs := by
  cases rule with
  | plain v =>
    obtain rfl := Except.ok.inj h
    exact areOfRules_invalid kind _
  | options o => exact areOfRules_options hcheck h

end

section
variable {key : Value} {o : Options} {ys : List Failure}

theorem areOfRules_lengthOptions (h : lengthOptions key o = .ok (some ys)) : AreOfRules ys := by
  cases o with
  | length min max =>
    obtain ⟨least, _, h⟩ := bind_eq_ok.1 h
    obtain ⟨greatest, _, h⟩ := bind_eq_ok.1 h
    cases h
    exact areOfRules_bounds key _ _ _ _ _ _
  | _ => cases h

theorem areOfRules_numberOptions (h : numberOptions key o = .ok (some ys)) : AreOfRules ys := by
  cases o with
  | number min max =>
    obtain ⟨least, _, h⟩ := bind_eq_ok.1 h
    obtain ⟨greatest, _, h⟩ := bind_eq_ok.1 h
    cases h
    exact areOfRules_bounds key _ _ _ _ _ _
  | _ => cases h

theorem areOfRules_phoneOptions (h : phoneOptions key o = .ok (some ys)) : AreOfRules ys := by
  cases o with
  | phone requirements =>
    cases h
    exact areOfRules_failUnless _ _ _
  | _ => cases h

theorem areOfRules_restrictionFailures {rs : List Value}
    (h : restrictionFailures names key rs = .ok ys) : AreOfRules ys := by
  induction rs generalizing ys with
  | nil =>
    cases h
    exact nofun
  | cons r rs ih =>
    obtain ⟨here, hhere, h⟩ := bind_eq_ok.1 h
    obtain ⟨rest, hrest, h⟩ := bind_eq_ok.1 h
    cases h
    refine AreOfRules.append ?_ (ih hrest)
    obtain ⟨holds, _, hhere⟩ := bind_eq_ok.1 hhere
    cases holds with
    | true =>
      cases hhere
      exact nofun
    | false =>
      obtain ⟨name, _, hhere⟩ := bind_eq_ok.1 hhere
      cases hhere
      exact areOfRules_invalid _ _

theorem areOfRules_emailOptions (h : emailOptions names key o = .ok (some ys)) : AreOfRules ys := by
  cases o with
  | email restrictions =>
    unfold emailOptions at h
    dsimp only at h
    split at h
    · rw [map_eq_pure_bind] at h
      obtain ⟨failures, hfailures, h⟩ := bind_eq_ok.1 h
      cases h
      exact areOfRules_restrictionFailures hfailures
    · cases h
      exact areOfRules_invalid _ _
  | _ => cases h

theorem areOfRules_fileOptions (h : fileOptions key o = .ok (some ys)) : AreOfRules ys := by
  cases o with
  | file mimeTypes maxBytes =>
    obtain ⟨limit, _, h⟩ := bind_eq_ok.1 h
    cases h
    exact areOfRules_failUnless _ _ _
  | _ => cases h

theorem areOfRules_captchaOptions (h : captchaOptions key o = .ok (some ys)) : AreOfRules ys := by
  cases o with
  | captcha siteKey secret =>
    cases h
    exact (areOfRules_failUnless _ _ _).append (areOfRules_failUnless _ _ _)
  | _ => cases h

theorem areOfRules_addressFailures (key : Value) (rule : Rule) :
    AreOfRules (addressFailures key rule) := by
  unfold addressFailures
  split
  · exact areOfRules_failUnless _ _ _
  · exact areOfRules_invalid _ _

theorem areOfRules_minAgeFailures {rule : Rule} (h : minAgeFailures key rule = .ok ys) :
    AreOfRules ys := by
  cases rule with
  | plain v =>
    obtain ⟨number, _, h⟩ := bind_eq_ok.1 h
    cases number with
    | some x =>
      cases h
      exact nofun
    | none =>
      obtain ⟨name, _, h⟩ := bind_eq_ok.1 h
      cases h
      exact areOfRules_invalid _ _
  | options o =>
    obtain ⟨name, _, h⟩ := bind_eq_ok.1 h
    cases h
    exact areOfRules_invalid _ _

theorem areOfRules_ruleFailures {rule : Rule} (h : ruleFailures names key rule = .ok ys) :
    AreOfRules ys := by
  unfold ruleFailures at h
  cases hkind : RuleKind.ofKey? key with
  | none =>
    rw [hkind] at h
    obtain ⟨name, _, h⟩ := bind_eq_ok.1 h
    cases h
    exact areOfRules_invalid _ _
  | some kind =>
    rw [hkind] at h
    cases kind with
    | required | boolean | values | group =>
      cases h
      exact nofun
    | string | array => exact areOfRules_withOptions (fun _ _ => areOfRules_lengthOptions) h
    | number => exact areOfRules_withOptions (fun _ _ => areOfRules_numberOptions) h
    | phone => exact areOfRules_withOptions (fun _ _ => areOfRules_phoneOptions) h
    | email => exact areOfRules_withOptions (fun _ _ => areOfRules_emailOptions) h
    | file => exact areOfRules_onlyOptions (fun _ _ => areOfRules_fileOptions) h
    | captcha => exact areOfRules_onlyOptions (fun _ _ => areOfRules_captchaOptions) h
    | minAge => exact areOfRules_minAgeFailures h
    | address =>
      cases h
      exact areOfRules_addressFailures key rule

theorem areOfRules_rulesFailures {rules : List (Value × Rule)}
    (h : rulesFailures names rules = .ok ys) : AreOfRules ys := by
  induction rules generalizing ys with
  | nil =>
    cases h
    exact nofun
  | cons e rules ih =>
    obtain ⟨here, hhere, h⟩ := bind_eq_ok.1 h
    obtain ⟨rest, hrest, h⟩ := bind_eq_ok.1 h
    cases h
    exact (areOfRules_ruleFailures hhere).append (ih hrest)

end

/-- Failures none of which is that of a repeated slug. -/
def AreOther (xs : List Failure) : Prop := ∀ x ∈ xs, x.code ≠ "DUPLICATE_SLUG"

theorem AreOther.append {xs ys : List Failure} (hxs : AreOther xs) (hys : AreOther ys) :
    AreOther (xs ++ ys) := List.forall_mem_append.2 ⟨hxs, hys⟩

theorem AreOfRules.areOther {xs : List Failure} (h : AreOfRules xs) : AreOther xs := by
  intro x hx
  rw [h x hx]
  decide

section
variable {a : Attributes} {xs : List Failure}

theorem areOther_fieldFailure (a : Attributes) (what : String) {code : String}
    (h : code ≠ "DUPLICATE_SLUG") : AreOther [fieldFailure a what code] :=
  List.forall_mem_singleton.2 h

theorem areOther_nameFailures (a : Attributes) : AreOther (nameFailures a) := by
  unfold nameFailures
  split
  · exact nofun
  · exact areOther_fieldFailure a _ (by decide)

theorem areOther_typeFailures {f : Field} (h : typeFailures f = .ok xs) : AreOther xs := by
  cases f with
  | unknown v a =>
    obtain ⟨name, _, h⟩ := bind_eq_ok.1 h
    obtain rfl := Except.ok.inj h
    exact areOther_fieldFailure a _ (by decide)
  | _ =>
    obtain rfl := Except.ok.inj h
    exact nofun

theorem areOther_variantFailures (f : Field) : AreOther (variantFailures f) := by
  unfold variantFailures
  split
  · unfold choiceFailures
    refine AreOther.append ?_ (List.forall_mem_map.2 fun _ _ => by simp [fieldFailure])
    split
    · exact areOther_fieldFailure _ _ (by decide)
    · exact nofun
  · split
    · exact nofun
    · exact areOther_fieldFailure _ _ (by decide)
  · exact nofun

def publicFailures (root : Bool) (a : Attributes) : List Failure :=
  if a.isPublic && !root then
    [fieldFailure a ("is marked \"public\" but is not a top-level field. " ++
      "This option can only be used on top-level field elements.") "PUBLIC_NOT_ALLOWED"]
  else []

theorem commonFailures_cases {root : Bool} (h : commonFailures names root a = .ok xs) :
    ∃ rules, AreOfRules rules ∧
      ∀ root', commonFailures names root' a = .ok (rules ++ publicFailures root' a) := by
  unfold commonFailures at h
  cases hgiven : a.rules with
  | none =>
    refine ⟨[], nofun, fun root' => ?_⟩
    unfold commonFailures
    rw [hgiven]
    rfl
  | some b =>
    rw [hgiven] at h
    obtain ⟨rules, hrules, _⟩ := bind_eq_ok.1 h
    refine ⟨rules, areOfRules_rulesFailures hrules, fun root' => ?_⟩
    unfold commonFailures
    rw [hgiven]
    exact bind_eq_ok.2 ⟨rules, hrules, rfl⟩

theorem areOther_commonFailures {root : Bool} (h : commonFailures names root a = .ok xs) :
    AreOther xs := by
  obtain ⟨rules, hrules, hcommon⟩ := commonFailures_cases h
  obtain rfl := Except.ok.inj ((hcommon root).symm.trans h)
  refine hrules.areOther.append ?_
  unfold publicFailures
  split
  · exact areOther_fieldFailure a _ (by decide)
  · exact nofun

end

end Intake.Definition
