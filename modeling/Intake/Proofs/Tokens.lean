import Intake.Command.Outcome
import Intake.Proofs.Export
import Intake.Proofs.FirstMatch
import Intake.Proofs.Passing
import Intake.Proofs.Requests

/-! Captcha tokens in the object of a submission. The slugs to be left out are those of the captcha
fields at the top, and an answer is left out at every depth where it, or a group on the way to it,
has one of these. So tokens are all that is missing exactly where these slugs tell the captcha
fields of all levels from the other fields. -/

namespace Intake

variable {names : Pattern.Names}

namespace Submission

inductive EntryAt : List (Value × Value) → List Value → Value × Value → Prop
  | here {es : List (Value × Value)} {e : Value × Value} (h : e ∈ es) : EntryAt es [] e
  | inside {es inner : List (Value × Value)} {path : List Value} {k : Value} {e : Value × Value}
      (hk : (k, .map inner) ∈ es) (h : EntryAt inner path e) : EntryAt es (k :: path) e

@[simp] theorem entryAt_nil_iff {es : List (Value × Value)} {e : Value × Value} :
    EntryAt es [] e ↔ e ∈ es := by
  constructor
  · rintro ⟨h⟩
    exact h
  · exact .here

theorem entryAt_cons_iff {es : List (Value × Value)} {k : Value} {path : List Value}
    {e : Value × Value} :
    EntryAt es (k :: path) e ↔ ∃ inner, (k, .map inner) ∈ es ∧ EntryAt inner path e := by
  constructor
  · intro h
    cases h with
    | inside hk h => exact ⟨_, hk, h⟩
  · rintro ⟨inner, hk, h⟩
    exact .inside hk h

end Submission

namespace Validation

theorem declared_of_isValid {c : Context} {fields : List Field} {answers : List Answer}
    {uploads : List Upload} {e e' : Captcha.Exchange} {report : Report}
    (hrun : (check c answers fields uploads).outcome e = (.ok report, e'))
    (hvalid : report.isValid = true) :
    ∀ s ∈ Answer.slugs answers ++ uploads.map (·.fieldName),
      (Field.slugsOf fields).any s.equal = true := by
  have hpasses : (levelFailures c answers uploads fields).Passes := by
    rw [Level.check_outcome] at hrun
    rcases hlevel : (levelFailures c answers uploads fields).outcome e with ⟨f | failures, e₁⟩
    · rw [hlevel] at hrun
      obtain rfl := Except.ok.inj (Prod.mk.inj hrun).1
      cases hvalid
    · rw [hlevel] at hrun
      obtain rfl := Except.ok.inj (Prod.mk.inj hrun).1
      obtain rfl := List.isEmpty_iff.1 hvalid
      exact ⟨e, e₁, hlevel⟩
  have hne : fields ≠ [] := by
    rintro rfl
    exact List.cons_ne_nil _ _ (Run.passes_pure_iff.1 hpasses)
  rw [levelFailures_eq hne] at hpasses
  obtain ⟨⟨e₁, e₂, hslugs⟩, _⟩ := hpasses.of_append
  rw [Run.outcome_ofExcept] at hslugs
  have hnone := (Prod.mk.inj hslugs).1
  unfold slugFailures at hnone
  obtain ⟨declared, hkeys, hnone⟩ := bind_eq_ok.1 hnone
  obtain rfl := eq_of_asKeys hkeys
  rw [unexpectedFailures_eq (isKey_of_unexpectedFailures hnone)] at hnone
  have hfilter := List.map_eq_nil_iff.1 (Except.ok.inj hnone)
  intro s hs
  have hnot := List.filter_eq_nil_iff.1 hfilter s hs
  simpa using hnot

/-- In a valid submission to a form that is accepted all slugs are texts. -/
theorem isText_of_isValid {c : Context} {root : Bool} {fields : List Field}
    (haccepts : Definition.AcceptsAll names root [] fields) {answers : List Answer}
    {uploads : List Upload} {e e' : Captcha.Exchange} {report : Report}
    (hrun : (check c answers fields uploads).outcome e = (.ok report, e'))
    (hvalid : report.isValid = true) : ∀ s ∈ Answer.slugs answers, s.IsText := by
  intro s hs
  have hdeclared := declared_of_isValid hrun hvalid s (List.mem_append_left _ hs)
  obtain ⟨t, ht, hequal⟩ := List.any_eq_true.1 hdeclared
  obtain ⟨siblings, g, hlayer, hg, rfl⟩ := Field.exists_layer_of_mem_slugsOf ht
  obtain ⟨t, htext, _⟩ := (haccepts.wellFormed hlayer g hg).slug
  rw [htext, Value.equal_text_iff] at hequal
  exact ⟨t, hequal⟩

end Validation

namespace Level
open Submission

/-- An answer is submitted for a field, at the level that groups with the slugs of a path lead to.
-/
inductive SubmittedAt : Level → List Value → Field → Answer → Prop
  | here {l : Level} {f : Field} {a : Answer} (hf : f ∈ l.fields) (ha : a ∈ l.answers)
      (hslug : a.slug = f.slug) : SubmittedAt l [] f a
  | inside {l : Level} {g : Attributes} {children : List Field} {path : List Value} {f : Field}
      {a : Answer} (hg : .group g children ∈ l.fields)
      (h : SubmittedAt (l.below g children) path f a) : SubmittedAt l (g.slug :: path) f a

def Distinct (l : Level) : Prop := ∀ m, l.Reaches m → (m.answers.map (·.slug)).Nodup

theorem Distinct.below {l : Level} (h : l.Distinct) {g : Attributes} {children : List Field}
    (hg : .group g children ∈ l.fields) : (l.below g children).Distinct :=
  fun m hm => h m (.down hg hm)

theorem SubmittedAt.answers_ne_nil {l : Level} {path : List Value} {f : Field} {a : Answer}
    (h : l.SubmittedAt path f a) : l.answers ≠ [] := by
  induction h with
  | here _ ha _ => exact List.ne_nil_of_mem ha
  | inside _ _ ih =>
    intro hnil
    refine ih ?_
    simp [Level.below, hnil, Validation.locate, Field.isFile, Answer.group?]

theorem exists_answer_of_below {l : Level} {g : Attributes} {children : List Field}
    (htext : g.slug.IsText) (hne : (l.below g children).answers ≠ []) :
    ∃ b ∈ l.answers, b.slug = g.slug ∧
      Answer.group? b.value = some (l.below g children).answers := by
  rw [answers_below []] at hne ⊢
  cases hv : Answer.group? (l.value [] (.group g children)) with
  | none =>
    rw [hv] at hne
    exact absurd rfl hne
  | some inner => exact exists_answer_of_inner hv htext

variable {excluded : Value} {hidden : List Value}

theorem mem_entries_of_distinct (hexcluded : excluded.elements? = some hidden) {l : Level}
    (htexts : ∀ s ∈ Answer.slugs l.answers, s.IsText) (hdistinct : (l.answers.map (·.slug)).Nodup)
    {es : List (Value × Value)}
    (hes : entriesOf excluded [] (l.answers.map Answer.toValue) = .ok es) {a : Answer}
    (ha : a ∈ l.answers) (w : Value) :
    (a.slug, w) ∈ es ↔ ¬ LeftOut hidden a.slug ∧ objectValue excluded a.value = .ok w := by
  have hslugs : ∀ a ∈ l.answers, a.slug.IsText := fun a ha => htexts _ (Answer.slug_mem_slugs ha)
  have hnodup : (([] : List (Value × Value)).map (·.1)).Nodup := List.nodup_nil
  rw [mem_entriesOf_iff hexcluded hslugs hnodup hes]
  simp only [List.not_mem_nil, and_false, or_false, Answer.isLast_iff_mem hdistinct]
  constructor
  · rintro ⟨b, hb, hslug, hkept, hw⟩
    obtain rfl := List.inj_on_of_nodup_map hdistinct hb ha hslug
    exact ⟨hkept, hw⟩
  · rintro ⟨hkept, hw⟩
    exact ⟨a, ha, rfl, hkept, hw⟩

theorem leftOut_slug_iff {fields : List Field} (hnamed : Field.Named fields) {f : Field}
    (hf : f ∈ fields) : LeftOut hidden f.slug ↔ f.slug ∈ hidden := by
  obtain ⟨s, hs, hne⟩ := (hnamed fields (.top fields)).2 f hf
  unfold LeftOut
  rw [or_iff_right]
  rw [hs]
  exact fun h => hne (Value.text.inj h)

theorem SubmittedAt.entryAt_iff (hexcluded : excluded.elements? = some hidden) {l : Level}
    {path : List Value} {f : Field} {a : Answer} (h : l.SubmittedAt path f a)
    (hnamed : Field.Named l.fields) (htexts : ∀ s ∈ Answer.slugs l.answers, s.IsText)
    (hdistinct : l.Distinct) {es : List (Value × Value)}
    (hes : entriesOf excluded [] (l.answers.map Answer.toValue) = .ok es) (w : Value) :
    EntryAt es path (f.slug, w) ↔
      (∀ s ∈ f.slug :: path, s ∉ hidden) ∧ objectValue excluded a.value = .ok w := by
  induction h generalizing es with
  | @here l f a hf ha hslug =>
    rw [entryAt_nil_iff, List.forall_mem_singleton, ← leftOut_slug_iff hnamed hf, ← hslug]
    exact mem_entries_of_distinct hexcluded htexts (hdistinct l (.here l)) hes ha w
  | @inside l g children path f a hg h ih =>
    have htext : g.slug.IsText := by
      obtain ⟨s, hs, _⟩ := (hnamed l.fields (.top l.fields)).2 _ hg
      exact ⟨s, hs⟩
    have htextsBelow : ∀ s ∈ Answer.slugs (l.below g children).answers, s.IsText :=
      fun s hs => htexts s (l.slugs_below_subset g children hs)
    obtain ⟨b, hb, hslug, hgroup⟩ := exists_answer_of_below htext h.answers_ne_nil
    obtain ⟨inner, hinner, _⟩ := exists_toObject hexcluded htextsBelow
    have hobject : objectValue excluded b.value = .ok (.map inner) := by
      rw [objectValue_of_group? hgroup h.answers_ne_nil, hinner]
      rfl
    have hleft : LeftOut hidden g.slug ↔ g.slug ∈ hidden := leftOut_slug_iff hnamed hg
    -- the one entry under the slug of the group is the object of the answers below it
    have hentry : ∀ v, (g.slug, v) ∈ es ↔ g.slug ∉ hidden ∧ v = .map inner := by
      intro v
      rw [← hslug, mem_entries_of_distinct hexcluded htexts (hdistinct l (.here l)) hes hb, hobject,
        Except.ok.injEq, hslug, hleft, eq_comm]
    have hbelow := ih (fun siblings hs => hnamed siblings (.inside hg hs)) htextsBelow
      (hdistinct.below hg) hinner
    rw [entryAt_cons_iff]
    simp only [hentry, List.forall_mem_cons]
    rw [List.forall_mem_cons] at hbelow
    constructor
    · rintro ⟨_, ⟨hkept, heq⟩, hat⟩
      obtain rfl := Value.map.inj heq
      obtain ⟨⟨hf, hpath⟩, hw⟩ := hbelow.1 hat
      exact ⟨⟨hf, hkept, hpath⟩, hw⟩
    · rintro ⟨⟨hf, hkept, hpath⟩, hw⟩
      exact ⟨inner, ⟨hkept, rfl⟩, hbelow.2 ⟨⟨hf, hpath⟩, hw⟩⟩

theorem SubmittedAt.exists_group {l : Level} {path : List Value} {f : Field} {a : Answer}
    (h : l.SubmittedAt path f a) (hnamed : Field.Named l.fields) {s : Value} (hs : s ∈ path) :
    ∃ path' g children b, l.SubmittedAt path' (.group g children) b ∧ g.slug = s := by
  induction h with
  | here => cases hs
  | @inside l g children path f a hg h ih =>
    rcases List.mem_cons.1 hs with rfl | hs
    · obtain ⟨t, ht, _⟩ := (hnamed l.fields (.top l.fields)).2 _ hg
      obtain ⟨b, hb, hslug, _⟩ := exists_answer_of_below ⟨t, ht⟩ h.answers_ne_nil
      exact ⟨[], g, children, b, .here hg hb hslug, rfl⟩
    · obtain ⟨path', g', children', b, hsub, hslug⟩ :=
        ih (fun siblings hlayer => hnamed siblings (.inside hg hlayer)) hs
      exact ⟨g.slug :: path', g', children', b, .inside hg hsub, hslug⟩

/-- Of what is submitted for declared fields an object has no entry for captcha fields and an entry
with the value for every other field, at every depth. -/
def OmitsTokens (excluded : Value) (l : Level) (es : List (Value × Value)) : Prop :=
  ∀ path f a, l.SubmittedAt path f a →
    (f.isCaptcha = true → ∀ w, ¬ EntryAt es path (f.slug, w)) ∧
      (f.isCaptcha = false →
        ∃ w, objectValue excluded a.value = .ok w ∧ EntryAt es path (f.slug, w))

theorem SubmittedAt.slugs_subset {l : Level} {path : List Value} {f : Field} {a : Answer}
    (h : l.SubmittedAt path f a) : Answer.slugsOfValue a.value ⊆ Answer.slugs l.answers := by
  induction h with
  | here _ ha _ =>
    intro s hs
    exact List.mem_flatMap.2 ⟨_, ha, List.mem_cons_of_mem _ hs⟩
  | @inside l g children _ _ _ _ _ ih => exact fun s hs => l.slugs_below_subset g children (ih hs)

theorem omitsTokens_iff (hexcluded : excluded.elements? = some hidden) {l : Level}
    (hnamed : Field.Named l.fields) (htexts : ∀ s ∈ Answer.slugs l.answers, s.IsText)
    (hdistinct : l.Distinct) {es : List (Value × Value)}
    (hes : entriesOf excluded [] (l.answers.map Answer.toValue) = .ok es) :
    l.OmitsTokens excluded es ↔
      ∀ path f a, l.SubmittedAt path f a → (f.isCaptcha = true ↔ f.slug ∈ hidden) := by
  have hentry : ∀ {path f a}, l.SubmittedAt path f a → ∀ w, EntryAt es path (f.slug, w) ↔
      (∀ s ∈ f.slug :: path, s ∉ hidden) ∧ objectValue excluded a.value = .ok w :=
    fun h w => h.entryAt_iff hexcluded hnamed htexts hdistinct hes w
  have hexported : ∀ {path f a}, l.SubmittedAt path f a →
      ∃ w, objectValue excluded a.value = .ok w := by
    intro path f a h
    exact exists_objectValue hexcluded a.value fun s hs => htexts s (h.slugs_subset hs)
  constructor
  · intro homits path f a h
    -- groups are no captcha fields, so that no slug on the way to an answer is excluded
    have hpath : ∀ s ∈ path, s ∉ hidden := by
      intro s hs
      obtain ⟨path', g, children, b, hsub, rfl⟩ := h.exists_group hnamed hs
      obtain ⟨w, _, hat⟩ := (homits path' _ b hsub).2 rfl
      exact ((hentry hsub w).1 hat).1 _ List.mem_cons_self
    obtain ⟨hout, hin⟩ := homits path f a h
    constructor
    · intro hcaptcha
      by_contra hkept
      obtain ⟨w, hw⟩ := hexported h
      exact hout hcaptcha w ((hentry h w).2 ⟨List.forall_mem_cons.2 ⟨hkept, hpath⟩, hw⟩)
    · intro hhidden
      by_contra hplain
      obtain ⟨w, _, hat⟩ := hin (Bool.eq_false_iff.2 hplain)
      exact ((hentry h w).1 hat).1 _ List.mem_cons_self hhidden
  · intro hslugs path f a h
    refine ⟨fun hcaptcha w hat => ?_, fun hplain => ?_⟩
    · exact ((hentry h w).1 hat).1 _ List.mem_cons_self ((hslugs path f a h).1 hcaptcha)
    · have hkept : f.slug ∉ hidden := by
        rw [← hslugs path f a h, hplain]
        exact Bool.false_ne_true
      have hpath : ∀ s ∈ path, s ∉ hidden := by
        intro s hs
        obtain ⟨path', g, children, b, hsub, rfl⟩ := h.exists_group hnamed hs
        exact fun hmem => Bool.false_ne_true ((hslugs path' _ b hsub).2 hmem)
      obtain ⟨w, hw⟩ := hexported h
      exact ⟨w, hw, (hentry h w).2 ⟨List.forall_mem_cons.2 ⟨hkept, hpath⟩, hw⟩⟩

end Level

namespace Command
open Submission Validation

/-- For a form that is accepted and a valid submission with distinct slugs at every level there is
an object, which is the data that is printed. What is submitted for a field has an entry in it
exactly where neither the slug of the field nor that of a group on the way is one of a captcha field
at the top. So the tokens are all that it omits exactly where of the fields that are answered, at
every depth, those with such a slug are the captcha fields. -/
theorem exported_omitsTokens_iff {c : Context} {fields : List Field} {definition : Report}
    (haccepted : Definition.checkFields names true fields = .ok definition)
    (hdefined : definition.isValid = true) {answers : List Answer} {uploads : List Upload}
    {e e' : Captcha.Exchange} {report : Report}
    (hrun : (check c answers fields uploads).outcome e = (.ok report, e'))
    (hvalid : report.isValid = true)
    (hdistinct : ∀ m, Level.Reaches ⟨fields, answers⟩ m → (m.answers.map (·.slug)).Nodup) :
    ∃ es, exported fields answers = .ok (.map es) ∧
      reportDocument fields answers report = Json.printLenient
        (.map [(.text "valid", .bool true), (.text "data", .map es)]) ∧
      (∀ path f a, Level.SubmittedAt ⟨fields, answers⟩ path f a → ∀ w,
        EntryAt es path (f.slug, w) ↔ (∀ s ∈ f.slug :: path, s ∉ captchaSlugs fields) ∧
          objectValue (.list (captchaSlugs fields)) a.value = .ok w) ∧
      (Level.OmitsTokens (.list (captchaSlugs fields)) ⟨fields, answers⟩ es ↔
        ∀ path f a, Level.SubmittedAt ⟨fields, answers⟩ path f a →
          (f.isCaptcha = true ↔ f.slug ∈ captchaSlugs fields)) := by
  have haccepts := Definition.accepts_of_checkFields haccepted hdefined
  have htexts := isText_of_isValid haccepts hrun hvalid
  have hexcluded : (Value.list (captchaSlugs fields)).elements? = some (captchaSlugs fields) := rfl
  obtain ⟨es, hes, hobject⟩ := exists_toObject hexcluded htexts
  have hexported : exported fields answers = .ok (.map es) := hobject
  refine ⟨es, hexported, ?_, fun path f a h => ?_, ?_⟩
  · unfold reportDocument Report.toEntries
    rw [hvalid, hexported]
    rfl
  · exact h.entryAt_iff hexcluded haccepts.named htexts hdistinct hes
  · exact Level.omitsTokens_iff hexcluded haccepts.named htexts hdistinct hes

def captchaField (slug : String) : Field :=
  .leaf .captcha (.ofRules slug
    [(.captcha, .options ⟨.captcha (.text "site") (.text "key"), []⟩)])

def guestFields : List Field := [.leaf .text (.ofRules "robot" []), captchaField "human"]

def robotForm : List Field := [captchaField "robot", .group (.ofRules "guest" []) guestFields]

def robotAnswers : List Answer :=
  [⟨.text "robot", .text "abc"⟩,
    ⟨.text "guest", .list [.answer (.text "robot") (.text "Marvin"),
      .answer (.text "human") (.text "def")]⟩]

/-- The submission is valid. The text of the guest is missing in its object, and the token of the
guest is in it. -/
theorem exported_omitsTokens_iff_robots :
    ∃ report e' es, (check .newYear robotAnswers robotForm []).outcome
        (.start [.passed, .passed]) = (.ok report, e') ∧ report.isValid = true ∧
      exported robotForm robotAnswers = .ok (.map es) ∧
      (∀ w, ¬ EntryAt es [.text "guest"] (.text "robot", w)) ∧
      EntryAt es [.text "guest"] (.text "human", .text "def") ∧
      ¬ Level.OmitsTokens (.list [.text "robot"]) ⟨robotForm, robotAnswers⟩ es := by
  have haccepted : (Definition.checkFields .none true robotForm).toOption.map Report.isValid =
      some true := by decide +kernel
  obtain ⟨definition, hdefinition, hdefined⟩ := exists_of_toOption haccepted
  obtain ⟨report, e', hrun, -⟩ := Level.check_passes (c := .newYear) ⟨robotForm, robotAnswers⟩ []
    (.start [.passed, .passed])
  have hempty : ((check .newYear robotAnswers robotForm []).outcome
      (.start [.passed, .passed])).1.toOption.map Report.isValid = some true := by decide +kernel
  rw [hrun] at hempty
  have hvalid : report.isValid = true := Option.some.inj hempty
  have hdistinct : ∀ m, Level.Reaches ⟨robotForm, robotAnswers⟩ m →
      (m.answers.map (·.slug)).Nodup := by
    intro m hm
    cases hm with
    | here => simp [robotAnswers]
    | down hg hm =>
      rcases List.mem_cons.1 hg with hg | hg
      · cases hg
      · obtain ⟨rfl, rfl⟩ := Field.group.inj (List.mem_singleton.1 hg)
        cases hm with
        | here =>
          have hslugs : [Value.text "robot", .text "human"].Nodup := by simp
          exact hslugs
        | @down _ _ g children hg _ =>
          have hmem : Field.group g children ∈ guestFields := hg
          simp [guestFields, captchaField] at hmem
  obtain ⟨es, hexported, -, hentries, homits⟩ :=
    exported_omitsTokens_iff hdefinition hdefined hrun hvalid hdistinct
  have hguest : .group (.ofRules "guest" []) guestFields ∈ robotForm :=
    List.mem_cons_of_mem _ List.mem_cons_self
  let below : Level := Level.below ⟨robotForm, robotAnswers⟩ (.ofRules "guest" []) guestFields
  have hname : Level.SubmittedAt ⟨robotForm, robotAnswers⟩ [.text "guest"]
      (.leaf .text (.ofRules "robot" [])) ⟨.text "robot", .text "Marvin"⟩ := by
    have hbelow : below.SubmittedAt [] (.leaf .text (.ofRules "robot" []))
        ⟨.text "robot", .text "Marvin"⟩ := .here List.mem_cons_self List.mem_cons_self rfl
    exact hbelow.inside hguest
  have htoken : Level.SubmittedAt ⟨robotForm, robotAnswers⟩ [.text "guest"]
      (captchaField "human") ⟨.text "human", .text "def"⟩ := by
    have hbelow : below.SubmittedAt [] (captchaField "human") ⟨.text "human", .text "def"⟩ :=
      .here (List.mem_cons_of_mem _ List.mem_cons_self)
        (List.mem_cons_of_mem _ List.mem_cons_self) rfl
    exact hbelow.inside hguest
  have hrobot : Value.text "robot" ∈ captchaSlugs robotForm := List.mem_cons_self
  refine ⟨report, e', es, hrun, hvalid, hexported, fun w hat => ?_, ?_, fun h => ?_⟩
  · exact ((hentries _ _ _ hname w).1 hat).1 _ List.mem_cons_self hrobot
  · refine (hentries _ _ _ htoken _).2 ⟨?_, rfl⟩
    have hkept : ∀ s ∈ [Value.text "human", .text "guest"], s ∉ [Value.text "robot"] := by simp
    exact hkept
  · exact Bool.false_ne_true ((homits.1 h _ _ _ hname).2 hrobot)

end Command

end Intake
