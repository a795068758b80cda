import Intake.Proofs.Faults
import Intake.Proofs.Unreportable

/-! Which definitions end their check in a fault instead of a report. Integers that are too large
are not rounded, some patterns ask for more than patterns may, some values are no keys and so no
types, and what a failure names may be a value that cannot be written. -/

namespace Intake

variable {names : Pattern.Names}
open Value

namespace Value

/-- A text or bytes that are rejected as a pattern although they are not malformed. -/
def Overstrains (names : Pattern.Names) : Value → Prop
  | .text s => ∃ r, Pattern.read names true s.toList = .error r ∧ ∀ f, r ≠ .malformed f
  | .bytes bs => ∃ r, Pattern.read names false (bs.map fun b => Char.ofNat b.toNat) = .error r ∧
      ∀ f, r ≠ .malformed f
  | _ => False

end Value

def Options.Defeats (names : Pattern.Names) (o : Options) (kind : RuleKind) : Prop :=
  match kind, o with
  | .string, .length min max | .array, .length min max | .number, .number min max =>
    min.IsTooLarge ∨ max.IsTooLarge
  | .email, .email (.list rs) => ∃ v ∈ rs, v.Overstrains names ∨ v.isWritable = false
  | .file, .file _ limit => limit.IsTooLarge
  | _, _ => False

/-- What a rule is set to that the check of its kind cannot take. A least age is no option, and is
named where it is no number. -/
def Rule.Defeats (names : Pattern.Names) (r : Rule) (kind : RuleKind) : Prop :=
  match r with
  | .plain v => kind = .minAge ∧ (v.IsTooLarge ∨ v.isWritable = false)
  | .options o => o.options.Defeats names kind ∨ kind = .minAge ∧ o.isWritable = false

def Rule.DefeatsUnder (names : Pattern.Names) (key : Value) (r : Rule) : Prop :=
  match RuleKind.ofKey? key with
  | some kind => r.Defeats names kind
  | none => key.isWritable = false

def RuleBag.Defeats (names : Pattern.Names) (b : RuleBag) : Prop :=
  ∃ e ∈ b.rules, e.2.DefeatsUnder names e.1

/-- A field that the check cannot take, whatever is below it: the slug or a type that does not exist
cannot be written, or some rule defeats its check. -/
def Field.Defeats (names : Pattern.Names) (f : Field) : Prop :=
  f.slug.isWritable = false ∨ (∃ v a, f = .unknown v a ∧ v.isWritable = false) ∨
    ∃ b, f.rules = some b ∧ b.Defeats names

namespace Definition

variable {kind : Value}

@[simp] theorem faults_bound_iff {v : Value} : Faults (bound v) ↔ v.IsTooLarge := by
  have hnumber : bound v = v.toNumber := by cases v <;> rfl
  rw [hnumber, faults_toNumber_iff]

section
variable {key : Value} {kind : RuleKind} {check : Options → Except Fault (Option (List Failure))}
  (hkind : kind ≠ .minAge) (hcheck : ∀ o, Faults (check o) ↔ o.Defeats names kind)
include hkind hcheck

theorem faults_options_iff {o : OptionMap} {refused : Failure} :
    Faults (do match ← check o.options with
      | some failures => return extraFailures key o ++ failures
      | none => return [refused]) ↔ (Rule.options o).Defeats names kind := by
  have hdefeats : (Rule.options o).Defeats names kind ↔ o.options.Defeats names kind :=
    or_iff_left fun h => hkind h.1
  rw [hdefeats, faults_bind_const_iff (p := False), hcheck, or_false]
  intro x
  cases x <;> simp

@[simp] theorem faults_withOptions_iff {r : Rule} :
    Faults (withOptions key r check) ↔ r.Defeats names kind := by
  cases r with
  | plain v =>
    have hreport : ∃ xs, withOptions key (.plain v) check = .ok xs := by
      unfold withOptions
      split <;> exact ⟨_, rfl⟩
    obtain ⟨xs, hxs⟩ := hreport
    rw [hxs]
    exact iff_of_false (not_faults_ok xs) fun h => hkind h.1
  | options o => exact faults_options_iff hkind hcheck

@[simp] theorem faults_onlyOptions_iff {r : Rule} :
    Faults (onlyOptions key r check) ↔ r.Defeats names kind := by
  cases r with
  | plain v => exact iff_of_false (not_faults_ok _) fun h => hkind h.1
  | options o => exact faults_options_iff hkind hcheck

end

theorem faults_bounds_iff {β : Type} {min max : Value}
    (k : Option Number.Binary64 → Option Number.Binary64 → β) :
    Faults (do return k (← bound min) (← bound max)) ↔ min.IsTooLarge ∨ max.IsTooLarge := by
  rw [faults_bind_const_iff (p := max.IsTooLarge), faults_bound_iff]
  intro x
  rw [faults_map_iff, faults_bound_iff]

theorem faults_lengthOptions_iff {key : Value} {kind : RuleKind}
    (hkind : kind = .string ∨ kind = .array) (o : Options) :
    Faults (lengthOptions key o) ↔ o.Defeats names kind := by
  rcases hkind with rfl | rfl
  all_goals
    cases o with
    | length min max => exact faults_bounds_iff _
    | _ => exact iff_of_false (not_faults_ok none) id

theorem faults_numberOptions_iff {key : Value} (o : Options) :
    Faults (numberOptions key o) ↔ o.Defeats names .number := by
  cases o with
  | number min max => exact faults_bounds_iff _
  | _ => exact iff_of_false (not_faults_ok none) id

theorem faults_fileOptions_iff {key : Value} (o : Options) :
    Faults (fileOptions key o) ↔ o.Defeats names .file := by
  cases o with
  | file mimeTypes maxBytes =>
    have hlimit := faults_toNumber_iff (v := maxBytes)
    unfold fileOptions
    rw [faults_map_iff, hlimit]
    rfl
  | _ => exact iff_of_false (not_faults_ok none) id

theorem faults_rejection_iff (r : PatternRejection) :
    Faults (match (Except.error r.toFault : Except Fault ValuePattern) with
      | .ok _ => Except.ok true
      | .error (.pattern _) => .ok false
      | .error (.type _) => .ok false
      | .error f => .error f) ↔ ∀ f, r ≠ .malformed f := by
  cases r with
  | malformed f => exact iff_of_false (not_faults_ok false) fun h => h f rfl
  | _ => exact iff_of_true ⟨_, rfl⟩ nofun

theorem faults_read_iff {v : Value} {isText : Bool} {cs : List Char}
    (h : v.toPattern names = match Pattern.read names isText cs with
      | .ok p => .ok ⟨p, isText⟩
      | .error r => .error r.toFault) :
    Faults (isPattern names v) ↔
      ∃ r, Pattern.read names isText cs = .error r ∧ ∀ f, r ≠ .malformed f := by
  unfold isPattern
  rw [h]
  cases Pattern.read names isText cs with
  | ok p => simp
  | error r =>
    refine (faults_rejection_iff r).trans ⟨fun hr => ⟨r, rfl, hr⟩, ?_⟩
    rintro ⟨_, heq, hr⟩
    cases heq
    exact hr

theorem isPattern_other {v : Value} (htext : ∀ s, v ≠ .text s) (hbytes : ∀ bs, v ≠ .bytes bs) :
    isPattern names v = .ok false := by
  cases v with
  | text s => exact absurd rfl (htext s)
  | bytes bs => exact absurd rfl (hbytes bs)
  | tuple xs =>
    unfold isPattern Value.toPattern Value.asKey
    cases (Value.tuple xs).unhashable? <;> rfl
  | _ => rfl

@[simp]
theorem faults_isPattern_iff {v : Value} : Faults (isPattern names v) ↔ v.Overstrains names := by
  cases v with
  | text s => exact faults_read_iff rfl
  | bytes bs => exact faults_read_iff rfl
  | _ =>
    rw [isPattern_other (by simp) (by simp)]
    exact iff_of_false (not_faults_ok false) id

theorem isPattern_of_unwritable {v : Value} (h : v.isWritable = false) :
    isPattern names v = .ok false := by
  apply isPattern_other
  · rintro s rfl
    cases h
  · rintro bs rfl
    cases h

theorem faults_restrictionFailure_iff {v : Value} :
    Faults (restrictionFailure names kind v) ↔ v.Overstrains names ∨ v.isWritable = false := by
  have hnaming : Faults (do return [invalid kind
      s!"Restriction is not a valid pattern: \"{← v.written}\"."]) ↔ v.isWritable = false :=
    Check.faults_naming_iff fun s => [invalid kind s!"Restriction is not a valid pattern: \"{s}\"."]
  unfold restrictionFailure
  rw [faults_bind_iff, faults_isPattern_iff]
  refine or_congr_right ⟨?_, fun h => ⟨false, isPattern_of_unwritable h, hnaming.2 h⟩⟩
  rintro ⟨holds, _, h⟩
  cases holds with
  | true => exact absurd h (not_faults_ok [])
  | false => exact hnaming.1 h

theorem faults_restrictionFailures_iff {rs : List Value} :
    Faults (restrictionFailures names kind rs) ↔
      ∃ v ∈ rs, v.Overstrains names ∨ v.isWritable = false := by
  induction rs with
  | nil => simp [restrictionFailures]
  | cons r rs ih =>
    unfold restrictionFailures
    rw [faults_bind_const_iff, faults_restrictionFailure_iff, List.exists_mem_cons_iff]
    intro here
    rw [faults_map_iff, ih]

theorem faults_emailOptions_iff (o : Options) :
    Faults (emailOptions names kind o) ↔ o.Defeats names .email := by
  cases o with
  | email restrictions =>
    cases restrictions with
    | list rs =>
      cases rs with
      | nil =>
        refine iff_of_false (not_faults_ok _) ?_
        rintro ⟨v, hv, _⟩
        cases hv
      | cons r rs =>
        have hmap : emailOptions names kind (.email (.list (r :: rs))) =
            some <$> restrictionFailures names kind (r :: rs) := rfl
        rw [hmap, map_eq_pure_bind, faults_map_iff, faults_restrictionFailures_iff]
        rfl
    | _ => exact iff_of_false (not_faults_ok _) id
  | _ => exact iff_of_false (not_faults_ok _) id

theorem faults_minAgeFailures_iff {r : Rule} :
    Faults (minAgeFailures kind r) ↔ r.Defeats names .minAge := by
  cases r with
  | plain v =>
    have hnaming : Faults (do return [invalid kind s!"Value isn't a number: \"{← v.written}\"."]) ↔
        v.isWritable = false :=
      Check.faults_naming_iff fun s => [invalid kind s!"Value isn't a number: \"{s}\"."]
    have hdefeats : (Rule.plain v).Defeats names .minAge ↔ v.IsTooLarge ∨ v.isWritable = false :=
      and_iff_right rfl
    unfold minAgeFailures
    dsimp only
    rw [hdefeats]
    cases hv : v.toNumber with
    | error f => exact iff_of_true ⟨f, rfl⟩ (.inl (faults_toNumber_iff.1 ⟨f, hv⟩))
    | ok number =>
      rw [or_iff_right (Check.not_isTooLarge_of_toNumber hv)]
      cases number with
      | none => exact hnaming
      -- a number can be written, and is not reported
      | some x =>
        rw [isWritable_of_toNumber hv]
        exact iff_of_false (not_faults_ok []) nofun
  | options o =>
    have hwritten : Faults o.written ↔ o.isWritable = false := by
      unfold OptionMap.written
      cases o.isWritable <;> simp
    have hdefeats : (Rule.options o).Defeats names .minAge ↔ o.isWritable = false := by
      refine (or_iff_right ?_).trans (and_iff_right rfl)
      unfold Options.Defeats
      cases o.options <;> exact id
    unfold minAgeFailures
    rw [faults_map_iff, hwritten, hdefeats]

theorem not_defeats {r : Rule} {kind : RuleKind} (hkind : kind ≠ .minAge)
    (h : ∀ o : Options, ¬ o.Defeats names kind) : ¬ r.Defeats names kind := by
  cases r with
  | plain v => exact fun hr => hkind hr.1
  | options o => exact fun hr => hr.elim (h o.options) fun hr => hkind hr.1

theorem faults_ruleFailures_iff {key : Value} {r : Rule} :
    Faults (ruleFailures names key r) ↔ r.DefeatsUnder names key := by
  unfold ruleFailures Rule.DefeatsUnder
  cases RuleKind.ofKey? key with
  | none => exact Check.faults_naming_iff fun s => [invalid (.text s) ""]
  | some kind =>
    cases kind with
    | required | boolean | values | group | address =>
      refine iff_of_false (not_faults_ok _) (not_defeats (by decide) fun o => ?_)
      cases o <;> exact id
    | string =>
      exact faults_withOptions_iff (by decide) (faults_lengthOptions_iff (.inl rfl))
    | array =>
      exact faults_withOptions_iff (by decide) (faults_lengthOptions_iff (.inr rfl))
    | number => exact faults_withOptions_iff (by decide) faults_numberOptions_iff
    | email => exact faults_withOptions_iff (by decide) faults_emailOptions_iff
    | file => exact faults_onlyOptions_iff (by decide) faults_fileOptions_iff
    | phone =>
      refine faults_withOptions_iff (by decide) fun o => ?_
      cases o <;> exact iff_of_false (not_faults_ok _) id
    | captcha =>
      refine faults_onlyOptions_iff (by decide) fun o => ?_
      cases o <;> exact iff_of_false (not_faults_ok _) id
    | minAge => exact faults_minAgeFailures_iff

theorem faults_bagFailures_iff {b : RuleBag} : Faults (bagFailures names b) ↔ b.Defeats names := by
  obtain ⟨rules⟩ := b
  unfold bagFailures RuleBag.Defeats
  dsimp only
  induction rules with
  | nil => simp [rulesFailures]
  | cons e rules ih =>
    unfold rulesFailures
    rw [faults_bind_const_iff, faults_ruleFailures_iff, List.exists_mem_cons_iff]
    intro here
    rw [faults_map_iff, ih]

theorem faults_slugFailures_iff {seen : List String} {slug : Value} :
    Faults (slugFailures seen slug) ↔ slug.isWritable = false := by
  have hrefused : Faults (do return ([← invalidSlug slug], seen)) ↔ slug.isWritable = false := by
    rw [faults_map_iff]
    exact Check.faults_naming_iff _
  cases slug with
  | text s =>
    have hwritable : (Value.text s).isWritable = true := rfl
    unfold slugFailures
    dsimp only
    split
    · exact hrefused
    · rw [hwritable]
      split <;> exact iff_of_false (not_faults_ok _) nofun
  | _ => exact hrefused

theorem faults_typeFailures_iff {v : Value} {a : Attributes} :
    Faults (typeFailures (.unknown v a)) ↔ v.isWritable = false :=
  Check.faults_naming_iff fun s =>
    [fieldFailure a s!"has an invalid type: \"{s}\"." "INVALID_TYPE"]

theorem faults_commonFailures_iff {root : Bool} {a : Attributes} :
    Faults (commonFailures names root a) ↔ ∃ b, a.rules = some b ∧ b.Defeats names := by
  unfold commonFailures
  cases a.rules with
  | none => exact iff_of_false (not_faults_ok _) (by simp)
  | some b =>
    dsimp only
    rw [faults_map_iff, faults_bagFailures_iff]
    simp

theorem faults_steps_iff {root : Bool} {seen : List String} (f : Field) {p : Prop}
    {type : Except Fault (List Failure)} (htype : Faults type ↔ p) :
    Faults (do
      let (slug, seen) ← slugFailures seen f.slug
      let type ← type
      return (slug ++ nameFailures f.attributes ++ type ++
        (← commonFailures names root f.attributes), seen)) ↔
      f.slug.isWritable = false ∨ p ∨ ∃ b, f.rules = some b ∧ b.Defeats names := by
  rw [faults_bind_const_iff, faults_slugFailures_iff]
  rintro ⟨slug, seen⟩
  rw [faults_bind_const_iff, htype]
  intro xs
  rw [faults_map_iff, faults_commonFailures_iff]
  rfl

theorem faults_leaf_iff {root : Bool} {seen : List String} (f : Field) (hf : f.isGroup = false)
    (type : Except Fault (List Failure))
    (htype : Faults type ↔ ∃ v a, f = .unknown v a ∧ v.isWritable = false)
    (p : Attributes → List Field → Prop) :
    Faults (do
      let (slug, seen) ← slugFailures seen f.slug
      let type ← type
      return (slug ++ nameFailures f.attributes ++ type ++
        (← commonFailures names root f.attributes), seen)) ↔
      f.Defeats names ∨ ∃ a children, f = .group a children ∧ p a children := by
  refine (faults_steps_iff f htype).trans (or_iff_left ?_).symm
  rintro ⟨a, children, rfl, _⟩
  cases hf

open Intake.Field

mutual

theorem faults_fieldFailures_iff (root : Bool) (seen : List String) (f : Field) :
    Faults (fieldFailures names root seen f) ↔
      f.Defeats names ∨ ∃ a children, f = .group a children ∧
      ∃ siblings g, Layer children siblings ∧ g ∈ siblings ∧ g.Defeats names := by
  match f with
  | .group a children =>
    have hdefeats : (Field.group a children).Defeats names ↔
        a.slug.isWritable = false ∨ ∃ b, a.rules = some b ∧ b.Defeats names :=
      or_congr_right (or_iff_right (by simp))
    have hsteps : ∀ below : Except Fault (List Failure),
        (Faults below ↔ ∃ siblings g, Layer children siblings ∧ g ∈ siblings ∧ g.Defeats names) →
        (Faults (do
          let (slug, seen) ← slugFailures seen a.slug
          let below ← below
          return (slug ++ nameFailures a ++ below ++ (← commonFailures names root a), seen)) ↔
          (Field.group a children).Defeats names ∨
            ∃ siblings g, Layer children siblings ∧ g ∈ siblings ∧ g.Defeats names) := by
      intro below hbelow
      refine (faults_steps_iff (.group a children) hbelow).trans ?_
      rw [hdefeats, or_assoc]
      exact or_congr_right or_comm
    rw [exists_group_eq_iff]
    cases children with
    -- below a group without children there is nothing to look at
    | nil =>
      refine hsteps (pure [fieldFailure a "is a group but has no fields." "EMPTY_GROUP"]) ?_
      rw [exists_layer_iff]
      simp
    | cons g gs =>
      exact hsteps (siblingFailures names false [] (g :: gs))
        (faults_siblingFailures_iff false [] (g :: gs))
  | .leaf t a =>
    exact faults_leaf_iff (.leaf t a) rfl (pure (variantFailures (.leaf t a))) (by simp) _
  | .unknown v a =>
    refine faults_leaf_iff (.unknown v a) rfl (typeFailures (.unknown v a)) ?_ _
    rw [faults_typeFailures_iff]
    simp
  | .select a choices =>
    exact faults_leaf_iff (.select a choices) rfl (pure (variantFailures (.select a choices)))
      (by simp) _
termination_by structural f

theorem faults_siblingFailures_iff (root : Bool) (seen : List String) (fs : List Field) :
    Faults (siblingFailures names root seen fs) ↔
      ∃ siblings g, Layer fs siblings ∧ g ∈ siblings ∧ g.Defeats names := by
  match fs with
  | [] =>
    rw [exists_layer_iff]
    simp [siblingFailures]
  | f :: fs =>
    have hrest := fun seen => (faults_siblingFailures_iff root seen fs).trans exists_layer_iff
    unfold siblingFailures
    rw [exists_layer_iff, List.exists_mem_cons_iff, faults_bind_const_iff,
      faults_fieldFailures_iff root seen f]
    rintro ⟨here, seen'⟩
    rw [faults_map_iff, hrest]
termination_by structural fs

end

/-- An entry ends the check: it is not read, which is not reported either, or the check cannot take
some field in it, at whatever depth. -/
def Entry.Defeats (names : Pattern.Names) (e : Entry) : Prop :=
  (∃ v, e = .document v ∧ v.Unreportable) ∨
    ∃ f siblings g, e.read = .ok f ∧ Layer [f] siblings ∧ g ∈ siblings ∧ g.Defeats names

/-- A list is no type, and the check does not say so. -/
example : Faults (checkDocument .none true (.list [.map [(.text "slug", .text "a"),
    (.text "displayName", .text "A"), (.text "type", .list [.text "text"])]])) := ⟨_, rfl⟩

end Definition

end Intake
