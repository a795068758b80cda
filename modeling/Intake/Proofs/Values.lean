import Intake.Proofs.Keys
import Intake.Proofs.Run
import Intake.Proofs.Texts

/-! The check of one value: which failures it may report, and that rules of no kind but that of
captchas ask the service. -/

namespace Intake

theorem find?_eq_of_perm {α : Type} {p : α → Bool} {xs ys : List α} (h : xs.Perm ys)
    (hone : ∀ a ∈ xs, ∀ b ∈ xs, p a = true → p b = true → a = b) : xs.find? p = ys.find? p := by
  cases hx : xs.find? p with
  | none =>
    symm
    rw [List.find?_eq_none] at hx ⊢
    exact fun b hb => hx b (h.mem_iff.2 hb)
  | some a =>
    have ha := List.mem_of_find?_eq_some hx
    have hpa := List.find?_some hx
    cases hy : ys.find? p with
    | none => exact absurd hpa (List.find?_eq_none.1 hy a (h.mem_iff.1 ha))
    | some b =>
      have hb := h.mem_iff.2 (List.mem_of_find?_eq_some hy)
      rw [hone a ha b hb hpa (List.find?_some hy)]

namespace Value

theorem mem_keys_setEntry {α : Type} {key k : Value} {x : α} {entries : List (Value × α)}
    (h : k ∈ (setEntry key x entries).map (·.1)) : k = key ∨ k ∈ entries.map (·.1) := by
  induction entries with
  | nil => simpa [setEntry] using h
  | cons e es ih =>
    unfold setEntry at h
    split at h
    · exact Or.inr h
    · rcases List.mem_cons.1 h with h | h
      · exact Or.inr (h ▸ List.mem_cons_self)
      · exact (ih h).imp_right (List.mem_cons_of_mem _)

end Value

namespace RuleKind

@[simp]
theorem ofKey?_eq_some_iff {v : Value} {kind : RuleKind} : ofKey? v = some kind ↔ v = kind.key := by
  constructor
  · intro h
    cases v with
    | text s =>
      have hname := List.find?_some h
      rw [beq_iff_eq] at hname
      rw [key, hname]
    | _ => cases h
  · rintro rfl
    exact ofName?_name kind

theorem key_injective {a b : RuleKind} (h : a.key = b.key) : a = b := by
  have hb := ofKey?_eq_some_iff.2 h
  rw [ofKey?_eq_some_iff.2 rfl] at hb
  exact Option.some.inj hb

theorem isKey (kind : RuleKind) : kind.key.IsKey := Value.IsText.isKey ⟨_, rfl⟩

theorem not_equal {kind other : RuleKind} (h : kind ≠ other) :
    ¬ kind.key.equal other.key = true :=
  fun hequal => h (key_injective (Value.text_equal_iff.1 hequal)).symm

end RuleKind

namespace RuleBag

theorem mem_of_get? {b : RuleBag} {kind : RuleKind} {rule : Rule}
    (h : b.get? kind.key = some rule) : (kind.key, rule) ∈ b.rules := by
  unfold get? at h
  obtain ⟨e, he, rfl⟩ := Option.map_eq_some_iff.1 h
  have hequal := List.find?_some he
  have hkey : e.1 = kind.key := Value.text_equal_iff.1 hequal
  rw [← hkey]
  exact List.mem_of_find?_eq_some he

theorem contains_iff {b : RuleBag} {key : Value} :
    b.contains key = true ↔ ∃ k ∈ b.kinds, key.equal k = true := by
  unfold contains get? kinds
  simp only [Option.isSome_map, List.find?_isSome, List.mem_map, exists_exists_and_eq_and]

theorem contains_key_iff {b : RuleBag} {kind : RuleKind} :
    b.contains kind.key = true ↔ kind.key ∈ b.kinds := by
  rw [contains_iff]
  simp only [RuleKind.key, Value.text_equal_iff, exists_eq_right]

@[simp, grind =]
theorem get?_erase_self (b : RuleBag) (key : Value) : (b.erase key).get? key = none := by
  unfold get? erase
  rw [Option.map_eq_none_iff, List.find?_eq_none]
  intro e he
  rw [List.mem_filter, Bool.not_eq_true'] at he
  simp [he.2]

theorem get?_cons (e : Value × Rule) (rules : List (Value × Rule)) (key : Value) :
    get? ⟨e :: rules⟩ key = if key.equal e.1 then some e.2 else get? ⟨rules⟩ key := by
  unfold get?
  rw [List.find?_cons]
  cases key.equal e.1 <;> rfl

theorem insert_cons (e : Value × Rule) (rules : List (Value × Rule)) (key : Value) (rule : Rule) :
    insert ⟨e :: rules⟩ key rule = if key.equal e.1 then ⟨(e.1, rule) :: rules⟩
      else ⟨e :: (insert ⟨rules⟩ key rule).rules⟩ := by
  unfold insert
  rw [Value.setEntry]
  cases key.equal e.1 <;> rfl

theorem get?_insert {key kind : Value} (hkey : key.IsKey) (hkind : kind.IsKey) (b : RuleBag)
    (rule : Rule) :
    (b.insert kind rule).get? key = if key.equal kind then some rule else b.get? key := by
  obtain ⟨rules⟩ := b
  induction rules with
  | nil => exact get?_cons (kind, rule) [] key
  | cons e rules ih =>
    rw [insert_cons]
    by_cases he : kind.equal e.1 = true
    -- the key finds the entry exactly where it is equal to the kind
    · have hiff : key.equal e.1 = key.equal kind := by
        rw [Bool.eq_iff_iff]
        refine ⟨fun hfound => hkey.equal_of_common hkind hfound he, fun hequal => ?_⟩
        rwa [hkey.equal_congr hequal]
      rw [if_pos he, get?_cons, get?_cons, hiff]
      split <;> rfl
    · rw [if_neg he, get?_cons, get?_cons]
      by_cases hequal : key.equal e.1 = true
      · have hother : ¬ key.equal kind = true :=
          fun h => he (hkey.equal_congr h e.1 ▸ hequal)
        rw [if_pos hequal, if_pos hequal, if_neg hother]
      · rw [if_neg hequal, if_neg hequal]
        exact ih

theorem erase_cons (e : Value × Rule) (rules : List (Value × Rule)) (kind : Value) :
    erase ⟨e :: rules⟩ kind =
      if kind.equal e.1 then erase ⟨rules⟩ kind else ⟨e :: (erase ⟨rules⟩ kind).rules⟩ := by
  unfold erase
  rw [List.filter_cons]
  cases kind.equal e.1 <;> rfl

theorem get?_erase {key kind : Value} (hkey : key.IsKey) (hkind : kind.IsKey) (b : RuleBag) :
    (b.erase kind).get? key = if key.equal kind then none else b.get? key := by
  by_cases hequal : key.equal kind = true
  · have hfound : ∀ e : Value × Rule, key.equal e.1 = kind.equal e.1 :=
      fun e => hkey.equal_congr hequal e.1
    have hself := get?_erase_self b kind
    rw [if_pos hequal, ← hself]
    unfold get?
    simp only [hfound]
  · rw [if_neg hequal]
    obtain ⟨rules⟩ := b
    induction rules with
    | nil => rfl
    | cons e rules ih =>
      rw [erase_cons]
      by_cases he : kind.equal e.1 = true
      · have hother : ¬ key.equal e.1 = true :=
          fun h => hequal (hkey.equal_of_common hkind h he)
        rw [if_pos he, get?_cons, if_neg hother]
        exact ih
      · rw [if_neg he, get?_cons, get?_cons]
        split
        · rfl
        · exact ih

@[simp, grind =] theorem get?_insert_self (b : RuleBag) (kind : RuleKind) (rule : Rule) :
    (b.insert kind.key rule).get? kind.key = some rule := by
  have hself : kind.key.equal kind.key = true := Value.text_equal_iff.2 rfl
  rw [get?_insert kind.isKey kind.isKey, if_pos hself]

theorem get?_insert_of_ne (b : RuleBag) {kind other : RuleKind} (h : kind ≠ other) (rule : Rule) :
    (b.insert other.key rule).get? kind.key = b.get? kind.key := by
  rw [get?_insert kind.isKey other.isKey, if_neg (RuleKind.not_equal h)]

theorem get?_erase_of_ne {b : RuleBag} {kind other : RuleKind} (h : kind ≠ other) :
    (b.erase other.key).get? kind.key = b.get? kind.key := by
  rw [get?_erase kind.isKey other.isKey, if_neg (RuleKind.not_equal h)]

@[simp, grind =]
theorem optsOut_erase_array (b : RuleBag) : (b.erase RuleKind.array.key).optsOut = b.optsOut := by
  unfold optsOut required
  rw [get?_erase_of_ne (by decide)]

end RuleBag

namespace Validation

theorem isEmpty_of_elements? {v : Value} {xs : List Value} (h : v.elements? = some xs) :
    isEmpty v = false := by
  cases v with
  | list _ | tuple _ => rfl
  | _ => cases h

/-- What the check of a value may report under a slug. -/
def IsOwn (slug : Value) (f : Failure) : Prop :=
  f.slug = slug ∧ (f.code = "MULTIPLE_NOT_ALLOWED" ∨ ∃ kind, f.code = code kind)

theorem isOwn_code {slug : Value} {x : Failure} (h : IsOwn slug x) :
    x.code ≠ "GROUP_INVALID" ∧ x.code ≠ "INTERNAL_ERROR" ∧ x.code ≠ "UNEXPECTED_FIELD" := by
  obtain ⟨_, hcode | ⟨kind, hcode⟩⟩ := h
  · rw [hcode]
    decide
  · rw [hcode]
    cases kind <;> decide

variable (c : Context) (slug : Value)

theorem ruleFailures_gives (value key : Value) (rule : Rule) :
    (ruleFailures c slug value key rule).Gives fun fs => ∀ f ∈ fs, IsOwn slug f := by
  unfold ruleFailures
  split
  · rename_i kind _
    refine (Run.gives_true _).map fun ms _ f hf => ?_
    obtain ⟨m, _, rfl⟩ := List.mem_map.1 hf
    exact ⟨rfl, Or.inr ⟨kind, rfl⟩⟩
  · exact Run.gives_pure (by simp)

theorem rulesFailures_gives (value : Value) (rules : List (Value × Rule)) :
    (rulesFailures c slug value rules).Gives fun fs => ∀ f ∈ fs, IsOwn slug f := by
  induction rules with
  | nil => exact Run.gives_pure (by simp)
  | cons r rules ih =>
    unfold rulesFailures
    refine (ruleFailures_gives c slug value r.1 r.2).bind fun here hhere => ?_
    refine ih.bind fun rest hrest => Run.gives_pure fun f hf => ?_
    exact (List.mem_append.1 hf).elim (hhere f) (hrest f)

theorem multipleFailure_isOwn : ∀ f ∈ [multipleFailure slug], IsOwn slug f := by
  intro f hf
  rw [List.mem_singleton.1 hf]
  exact ⟨rfl, Or.inl rfl⟩

theorem elementFailures_gives (bag : RuleBag) (value : Value) :
    (elementFailures c slug bag value).Gives fun fs => ∀ f ∈ fs, IsOwn slug f := by
  unfold elementFailures
  split
  · exact Run.gives_pure (by simp)
  · split
    · exact Run.gives_pure (multipleFailure_isOwn slug)
    · exact rulesFailures_gives c slug value bag.rules

theorem elementsFailures_gives (bag : RuleBag) (xs : List Value) :
    (elementsFailures c slug bag xs).Gives fun fs => ∀ f ∈ fs, IsOwn slug f := by
  induction xs with
  | nil => exact Run.gives_pure (by simp)
  | cons x xs ih =>
    unfold elementsFailures
    refine (elementFailures_gives c slug bag x).bind fun here hhere => ?_
    refine ih.bind fun rest hrest => Run.gives_pure fun f hf => ?_
    exact (List.mem_append.1 hf).elim (hhere f) (hrest f)

theorem listFailures_gives (value : Value) (bag : RuleBag) (xs : List Value) :
    (listFailures c slug value bag xs).Gives fun fs => ∀ f ∈ fs, IsOwn slug f := by
  unfold listFailures
  split
  · exact Run.gives_pure (multipleFailure_isOwn slug)
  · split
    · exact Run.gives_pure (multipleFailure_isOwn slug)
    · refine (Run.gives_true _).bind fun whole _ => ?_
      refine (elementsFailures_gives c slug _ xs).bind fun rest hrest => Run.gives_pure fun f hf =>
        ?_
      rcases List.mem_append.1 hf with hf | hf
      · obtain ⟨m, _, rfl⟩ := List.mem_map.1 hf
        exact ⟨rfl, Or.inr ⟨.array, rfl⟩⟩
      · exact hrest f hf

theorem valueFailures_gives (value : Value) (bag : RuleBag) (isGroup : Bool) :
    (valueFailures c slug value bag isGroup).Gives fun fs => ∀ f ∈ fs, IsOwn slug f := by
  unfold valueFailures
  split
  · exact Run.gives_pure (by simp)
  · split
    · split
      · exact rulesFailures_gives c slug value bag.rules
      · exact listFailures_gives c slug value bag _
    · exact rulesFailures_gives c slug value bag.rules

theorem guardedFailures_gives (value : Value) (bag : RuleBag) (isGroup : Bool) :
    (guardedFailures c slug value bag isGroup).Gives
      fun own => own = [internalFailure slug] ∨ ∀ x ∈ own, IsOwn slug x := by
  intro e own e' hown
  rcases Run.orElse_cases hown with hcheck | ⟨fault, _, rfl⟩
  · exact .inr (valueFailures_gives c slug value bag isGroup e own e' hcheck)
  · exact .inl rfl

/-- Groups that are not valid and slugs that were not expected are reported elsewhere. -/
theorem guardedFailures_code (value : Value) (bag : RuleBag) (isGroup : Bool) :
    (guardedFailures c slug value bag isGroup).Gives
      fun own => ∀ x ∈ own, x.code ≠ "GROUP_INVALID" ∧ x.code ≠ "UNEXPECTED_FIELD" := by
  intro e own e' hrun x hx
  rcases guardedFailures_gives c slug value bag isGroup e own e' hrun with rfl | hown
  · obtain rfl := List.mem_singleton.1 hx
    exact ⟨show "INTERNAL_ERROR" ≠ "GROUP_INVALID" by decide,
      show "INTERNAL_ERROR" ≠ "UNEXPECTED_FIELD" by decide⟩
  · obtain ⟨hgroup, _, hunexpected⟩ := isOwn_code (hown x hx)
    exact ⟨hgroup, hunexpected⟩

variable {c slug}

theorem messages_asksNothing {kind : RuleKind} (hk : kind ≠ .captcha) (value : Value)
    (rule : Rule) : (messages c kind value rule).AsksNothing := by
  cases kind with
  | captcha => exact absurd rfl hk
  | required | array | group | address => exact Run.asksNothing_pure _
  | _ => exact Run.asksNothing_ofExcept _

theorem ruleFailures_asksNothing {key : Value} (hk : key ≠ RuleKind.captcha.key) (value : Value)
    (rule : Rule) : (ruleFailures c slug value key rule).AsksNothing := by
  unfold ruleFailures
  split
  · rename_i kind hkind
    refine (messages_asksNothing ?_ value rule).map _
    rintro rfl
    exact hk (RuleKind.ofKey?_eq_some_iff.1 hkind)
  · exact Run.asksNothing_pure _

theorem rulesFailures_asksNothing {rules : List (Value × Rule)}
    (h : RuleKind.captcha.key ∉ rules.map (·.1)) (value : Value) :
    (rulesFailures c slug value rules).AsksNothing := by
  induction rules with
  | nil => exact Run.asksNothing_pure _
  | cons r rules ih =>
    rw [List.map_cons, List.mem_cons, not_or] at h
    unfold rulesFailures
    refine (ruleFailures_asksNothing (Ne.symm h.1) value r.2).bind fun here => ?_
    exact (ih h.2).bind fun rest => Run.asksNothing_pure _

theorem elementFailures_asksNothing {bag : RuleBag} (h : RuleKind.captcha.key ∉ bag.kinds)
    (value : Value) : (elementFailures c slug bag value).AsksNothing := by
  unfold elementFailures
  split
  · exact Run.asksNothing_pure _
  · split
    · exact Run.asksNothing_pure _
    · exact rulesFailures_asksNothing h value

theorem elementsFailures_asksNothing {bag : RuleBag} (h : RuleKind.captcha.key ∉ bag.kinds)
    (xs : List Value) : (elementsFailures c slug bag xs).AsksNothing := by
  induction xs with
  | nil => exact Run.asksNothing_pure _
  | cons x xs ih =>
    unfold elementsFailures
    exact (elementFailures_asksNothing h x).bind fun here => ih.bind fun _ => Run.asksNothing_pure _

theorem kinds_erase_subset (bag : RuleBag) (key : Value) : (bag.erase key).kinds ⊆ bag.kinds :=
  List.map_subset _ List.filter_sublist.subset

theorem valueFailures_asksNothing {bag : RuleBag} (h : RuleKind.captcha.key ∉ bag.kinds)
    (value : Value) (isGroup : Bool) :
    (valueFailures c slug value bag isGroup).AsksNothing := by
  unfold valueFailures
  split
  · exact Run.asksNothing_pure _
  · split
    · split
      · exact rulesFailures_asksNothing h value
      · unfold listFailures
        split
        · exact Run.asksNothing_pure _
        · split
          · exact Run.asksNothing_pure _
          · refine (Run.asksNothing_ofExcept _).bind fun whole => ?_
            refine Run.AsksNothing.bind (elementsFailures_asksNothing ?_ _) fun _ =>
              Run.asksNothing_pure _
            exact fun hmem => h (kinds_erase_subset bag _ hmem)
    · exact rulesFailures_asksNothing h value

theorem captcha_not_mem_insert {bag : RuleBag} {kind : RuleKind} (hk : kind ≠ .captcha)
    (rule : Rule) (h : RuleKind.captcha.key ∉ bag.kinds) :
    RuleKind.captcha.key ∉ (bag.insert kind.key rule).kinds := by
  intro hmem
  rcases Value.mem_keys_setEntry hmem with heq | hmem
  · exact hk (RuleKind.key_injective heq).symm
  · exact h hmem

theorem captcha_not_mem_effectiveRules {f : Field} (value : Value)
    (h : ∀ b, f.rules = some b → RuleKind.captcha.key ∉ b.kinds) :
    RuleKind.captcha.key ∉ (effectiveRules f value).kinds := by
  -- the rules declared, then with the choices of a select, then with the rule for lists
  have hown : RuleKind.captcha.key ∉ (f.rules.getD .empty).kinds := by
    cases hr : f.rules with
    | none => simp [RuleBag.empty, RuleBag.kinds]
    | some b => exact h b hr
  have hchoices : RuleKind.captcha.key ∉ (withChoices f (f.rules.getD .empty)).kinds := by
    unfold withChoices
    split
    · split
      · exact hown
      · exact captcha_not_mem_insert (by decide) _ hown
    · exact hown
  unfold effectiveRules withList
  split
  · exact captcha_not_mem_insert (by decide) _ hchoices
  · exact hchoices

end Validation

end Intake
