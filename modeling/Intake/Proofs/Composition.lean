import Intake.Proofs.Contents
import Intake.Proofs.MissingSecrets
import Intake.Proofs.Shorthand

/-! What fields are made of. A property of values that does not depend on how they are put together,
but for the keys of maps, is kept from a document to the fields that are read from it, to these
without their secrets, and to what they are written as; and fields without their secrets are read
again from what they are written as. -/

namespace Intake

namespace Value

structure AreTextKeys (ks : List Value) : Prop where
  texts : ∀ k ∈ ks, k.IsText
  distinct : ks.Nodup

theorem areTextKeys_nil : AreTextKeys [] := ⟨List.forall_mem_nil _, .nil⟩

theorem areTextKeys_texts {names : List String} (h : names.Nodup) :
    AreTextKeys (names.map text) := by
  refine ⟨?_, h.map fun _ _ => text.inj⟩
  intro k hk
  obtain ⟨name, _, rfl⟩ := List.mem_map.1 hk
  exact ⟨name, rfl⟩

theorem AreTextKeys.sublist {ks ks' : List Value} (h : AreTextKeys ks') (hsub : ks.Sublist ks') :
    AreTextKeys ks :=
  ⟨fun k hk => h.texts k (hsub.subset hk), h.distinct.sublist hsub⟩

theorem AreTextKeys.setEntry {α : Type} {es : List (Value × α)} (h : AreTextKeys (es.map (·.1)))
    {key : Value} (hkey : key.IsText) (x : α) :
    AreTextKeys ((Value.setEntry key x es).map (·.1)) := by
  rcases setEntry_cases key x es with ⟨before, e, after, rfl, _, hset⟩ | ⟨hnone, hset⟩
  · rw [hset]
    rw [List.map_append, List.map_cons] at h ⊢
    exact h
  · have hnew : key ∉ es.map (·.1) := by
      intro hmem
      obtain ⟨e, he, rfl⟩ := List.mem_map.1 hmem
      have hequal := hkey.equal_iff.2 rfl
      rw [hnone e he] at hequal
      cases hequal
    rw [hset, List.map_append]
    refine ⟨List.forall_mem_append.2 ⟨h.texts, List.forall_mem_singleton.2 hkey⟩, ?_⟩
    rw [List.nodup_append]
    refine ⟨h.distinct, List.nodup_singleton key, fun k hk k' hk' heq => ?_⟩
    obtain rfl := List.mem_singleton.1 hk'
    exact hnew (heq ▸ hk)

theorem forall_mem_setEntry {α : Type} {q : α → Prop} {es : List (Value × α)} (h : ∀ e ∈ es, q e.2)
    {x : α} (hx : q x) (key : Value) : ∀ e ∈ setEntry key x es, q e.2 := by
  induction es with
  | nil => exact List.forall_mem_singleton.2 hx
  | cons e es ih =>
    rw [List.forall_mem_cons] at h
    unfold setEntry
    split
    · exact List.forall_mem_cons.2 ⟨hx, h.2⟩
    · exact List.forall_mem_cons.2 ⟨h.1, ih h.2⟩

/-- A property that values keep when lists and maps are made of them: a map has it where another
does and the keys stay names. -/
structure Kept (p : Value → Prop) : Prop where
  null : p .null
  text : ∀ s, p (.text s)
  yes : p (.bool true)
  list : ∀ xs, p (.list xs)
  empty : p (.map [])
  map : ∀ {es es' : List (Value × Value)}, p (.map es) →
    (AreTextKeys (es.map (·.1)) → AreTextKeys (es'.map (·.1))) → p (.map es')

namespace Kept
variable {p : Value → Prop} {es : List (Value × Value)}

theorem named (hp : Kept p) (hes : AreTextKeys (es.map (·.1))) : p (.map es) :=
  hp.map hp.empty fun _ => hes

theorem every_text (hp : Kept p) (s : String) : Every p (.text s) :=
  (every_iff_of_alone rfl rfl).2 (hp.text s)

theorem every_list (hp : Kept p) {xs : List Value} (h : ∀ x ∈ xs, x.Every p) : Every p (.list xs) :=
  every_list_iff.2 ⟨hp.list xs, h⟩

theorem every_named (hp : Kept p) (entries : List (String × Value))
    (hnames : (entries.map (·.1)).Nodup) (h : ∀ e ∈ entries, e.2.Every p) :
    Every p (.map (entries.map fun e => (.text e.1, e.2))) := by
  refine every_map_iff.2 ⟨hp.named ?_, List.forall_mem_map.2 h⟩
  have hkeys : ((entries.map fun e => (Value.text e.1, e.2)).map (·.1)) =
      (entries.map (·.1)).map .text := by
    rw [List.map_map, List.map_map]
    rfl
  rw [hkeys]
  exact areTextKeys_texts hnames

theorem every_fieldD (hp : Kept p) (h : Every p (.map es)) (name : String) :
    (fieldD name es).Every p :=
  h.fieldD hp.null name

end Kept

theorem keys_entriesOf_sublist (slots : List (String × Option Value)) :
    ((entriesOf slots).map (·.1)).Sublist ((slots.map (·.1)).map text) := by
  induction slots with
  | nil => exact .slnil
  | cons s slots ih =>
    obtain ⟨name, v⟩ := s
    cases v with
    | none => exact ih.cons _
    | some v => exact ih.cons_cons _

theorem areTextKeys_entriesOf {slots : List (String × Option Value)} (h : (slots.map (·.1)).Nodup) :
    AreTextKeys ((entriesOf slots).map (·.1)) :=
  (areTextKeys_texts h).sublist (keys_entriesOf_sublist slots)

theorem forall_mem_entriesOf {q : Value → Prop} {slots : List (String × Option Value)}
    (h : ∀ s ∈ slots, ∀ v, s.2 = some v → q v) : ∀ e ∈ entriesOf slots, q e.2 := by
  intro e he
  obtain ⟨s, hs, hentry⟩ := List.mem_flatMap.1 he
  obtain ⟨v, hv, rfl⟩ := by simpa [slotEntry] using hentry
  exact h s hs v hv

end Value

open Value

variable {p : Value → Prop}

structure Choice.MadeOf (p : Value → Prop) (c : Choice) : Prop where
  value : c.value.Every p
  name : c.name.Every p

namespace Choice

theorem madeOf_of_mapM (hp : Kept p) {xs : List Value} (h : ∀ x ∈ xs, x.Every p)
    {choices : List Choice} (hread : xs.mapM Choice.ofValue = .ok choices) :
    ∀ c ∈ choices, c.MadeOf p := by
  induction xs generalizing choices with
  | nil =>
    obtain rfl := Except.ok.inj hread
    exact List.forall_mem_nil _
  | cons x xs ih =>
    rw [List.forall_mem_cons] at h
    rw [List.mapM_cons] at hread
    obtain ⟨c, hc, hread⟩ := bind_eq_ok.1 hread
    obtain ⟨choices, hchoices, hread⟩ := bind_eq_ok.1 hread
    obtain rfl := Except.ok.inj hread
    refine List.forall_mem_cons.2 ⟨?_, ih h.2 hchoices⟩
    cases x with
    | map es =>
      obtain rfl := Except.ok.inj hc
      exact ⟨hp.every_fieldD h.1 _, hp.every_fieldD h.1 _⟩
    | _ => cases hc

theorem MadeOf.every_toValue (hp : Kept p) {c : Choice} (h : c.MadeOf p) : c.toValue.Every p := by
  obtain ⟨value, name⟩ := c
  unfold toValue toEntries
  split
  · exact hp.every_named [("value", value)] (List.nodup_singleton _)
      (List.forall_mem_singleton.2 h.value)
  · exact hp.every_named [("value", value), ("name", name)] (by simp)
      (List.forall_mem_cons.2 ⟨h.value, List.forall_mem_singleton.2 h.name⟩)

theorem every_list_toValue (hp : Kept p) {choices : List Choice} (h : ∀ c ∈ choices, c.MadeOf p) :
    Every p (.list (choices.map toValue)) :=
  hp.every_list (List.forall_mem_map.2 fun c hc => (h c hc).every_toValue hp)

end Choice

def Rule.MadeOf (p : Value → Prop) : Rule → Prop
  | .plain v => v.Every p
  | .options o => o.Apart ∧ (∀ n ∈ o.options.named, n.2.Every p) ∧ Every p (.map o.extra)

theorem RuleKind.named_of_options? {kind : RuleKind} {get : String → Value} {o : Options}
    (h : kind.options? get = some o) : ∀ n ∈ o.named, n.2 = get n.1 := by
  cases kind <;> cases h <;> simp [Options.named]

theorem OptionMap.Apart.areTextKeys {o : OptionMap} (ho : o.Apart)
    (h : AreTextKeys (o.extra.map (·.1))) : AreTextKeys (o.toEntries.map (·.1)) := by
  have hnamed := areTextKeys_entriesOf o.options.nodup_slots
  rw [o.toEntries_eq, List.map_append]
  refine ⟨List.forall_mem_append.2 ⟨hnamed.texts, h.texts⟩, ?_⟩
  rw [List.nodup_append]
  refine ⟨hnamed.distinct, h.distinct, ?_⟩
  -- no key beside the options is one of their names
  rintro k hk k' hk' rfl
  obtain ⟨name, hname, rfl⟩ := List.mem_map.1 ((keys_entriesOf_sublist _).subset hk)
  obtain ⟨e, he, hkey⟩ := List.mem_map.1 hk'
  unfold Options.slots at hname
  rw [List.map_map] at hname
  obtain ⟨n, hn, rfl⟩ := List.mem_map.1 hname
  have hdeclared := Options.declares_name hn
  have hfree := ho e he
  rw [hkey] at hfree
  exact absurd hdeclared (Bool.eq_false_iff.1 hfree)

namespace Rule

theorem madeOf_read (hp : Kept p) (kind : Option RuleKind) {raw : Value} (h : raw.Every p) :
    (Rule.read kind raw).MadeOf p := by
  cases raw with
  | map entries =>
    cases kind with
    | none => exact h
    | some k =>
      rw [read_map]
      cases hoptions : k.options? fun name => fieldD name entries with
      | none => exact h
      | some o =>
        obtain ⟨hself, hentries⟩ := every_map_iff.1 h
        refine ⟨fun e he => (Bool.not_eq_true' _).mp (List.mem_filter.1 he).2, fun n hn => ?_,
          every_map_iff.2 ⟨hp.map hself fun hnames => ?_, fun e he => ?_⟩⟩
        · rw [RuleKind.named_of_options? hoptions n hn]
          exact hp.every_fieldD h n.1
        · exact hnames.sublist (List.filter_sublist.map _)
        · exact hentries e (List.mem_filter.1 he).1
  | _ => exact h

theorem MadeOf.every_toValue (hp : Kept p) {rule : Rule} (h : rule.MadeOf p) :
    rule.toValue.Every p := by
  cases rule with
  | plain v => exact h
  | options o =>
    obtain ⟨hapart, hnamed, hextra⟩ := h
    obtain ⟨hself, hentries⟩ := every_map_iff.1 hextra
    refine every_map_iff.2 ⟨hp.map hself hapart.areTextKeys, ?_⟩
    unfold OptionMap.toEntries
    refine List.forall_mem_append.2 ⟨List.forall_mem_map.2 fun n hn => ?_, hentries⟩
    exact hnamed n (List.mem_filter.1 hn).1

theorem MadeOf.emptied (hp : Kept p) {siteKey s : Value} {extra : List (Value × Value)}
    (h : (ofSecret siteKey extra s).MadeOf p) : (ofSecret siteKey extra s.emptied).MadeOf p := by
  obtain ⟨hapart, hnamed, hextra⟩ := h
  refine ⟨hapart, ?_, hextra⟩
  obtain ⟨hsite, hsecret⟩ := List.forall_mem_cons.1 hnamed
  refine List.forall_mem_cons.2 ⟨hsite, List.forall_mem_singleton.2 ?_⟩
  have hs : s.Every p := hsecret ("secret", s) List.mem_cons_self
  show s.emptied.Every p
  unfold Value.emptied
  split
  · exact hp.every_text ""
  · exact hs

end Rule

structure RuleBag.MadeOf (p : Value → Prop) (b : RuleBag) : Prop where
  read : b.IsRead
  map : p b.toValue
  rules : ∀ e ∈ b.rules, e.2.MadeOf p

namespace RuleBag

@[simp, grind =] theorem keys_toEntries (b : RuleBag) : b.toEntries.map (·.1) = b.kinds := by
  unfold toEntries kinds
  rw [List.map_map]
  rfl

theorem MadeOf.every_toValue (hp : Kept p) {b : RuleBag} (h : b.MadeOf p) : b.toValue.Every p :=
  every_map_iff.2 ⟨h.map, List.forall_mem_map.2 fun e he => (h.rules e he).every_toValue hp⟩

theorem madeOf_ofEntries (hp : Kept p) {es : List (Value × Value)} (h : Every p (.map es)) :
    (ofEntries es).MadeOf p := by
  obtain ⟨hself, hentries⟩ := every_map_iff.1 h
  -- rules that are read one after the other, and kinds that are names as long as the keys are
  have hfold : ∀ (es : List (Value × Value)) (b : RuleBag), (∀ e ∈ es, e.2.Every p) →
      (∀ e ∈ b.rules, e.2.MadeOf p) →
      (∀ e ∈ ((es.map fun e => (e.1, Rule.read (RuleKind.ofKey? e.1) e.2)).foldl
        (fun b e => b.insert e.1 e.2) b).rules, e.2.MadeOf p) ∧
      ((∀ e ∈ es, e.1.IsText) → AreTextKeys b.kinds →
        AreTextKeys ((es.map fun e => (e.1, Rule.read (RuleKind.ofKey? e.1) e.2)).foldl
          (fun b e => b.insert e.1 e.2) b).kinds) := by
    intro es
    induction es with
    | nil => exact fun b _ hb => ⟨hb, fun _ hnames => hnames⟩
    | cons e es ih =>
      intro b hes hb
      rw [List.forall_mem_cons] at hes
      obtain ⟨hrules, hnames⟩ := ih (b.insert e.1 (Rule.read (RuleKind.ofKey? e.1) e.2)) hes.2
        (forall_mem_setEntry hb (Rule.madeOf_read hp _ hes.1) e.1)
      refine ⟨hrules, fun htexts hb' => ?_⟩
      rw [List.forall_mem_cons] at htexts
      exact hnames htexts.2 (hb'.setEntry htexts.1 _)
  obtain ⟨hrules, hnames⟩ := hfold es empty hentries (List.forall_mem_nil _)
  refine ⟨isRead_ofEntries es, hp.map hself fun hkeys => ?_, hrules⟩
  rw [keys_toEntries]
  exact hnames (fun e he => hkeys.texts e.1 (List.mem_map_of_mem he)) areTextKeys_nil

theorem exists_read_ofSecret {siteKey s s' : Value} {extra : List (Value × Value)}
    (h : ∃ raw, Rule.ofSecret siteKey extra s =
    Rule.read (RuleKind.ofKey? RuleKind.captcha.key) raw) :
    ∃ raw, Rule.ofSecret siteKey extra s' =
      Rule.read (RuleKind.ofKey? RuleKind.captcha.key) raw := by
  obtain ⟨raw, hraw⟩ := h
  rcases Rule.read_cases (RuleKind.ofKey? RuleKind.captcha.key) raw with
    hplain | ⟨k, o, get, -, -, hapart, hread⟩
  · rw [hplain] at hraw
    cases hraw
  · rw [hread] at hraw
    cases hraw
    have hoptions :
      RuleKind.captcha.options? (fun name => if name = "siteKey" then siteKey else s') =
        some (.captcha siteKey s') := rfl
    have hagain := Rule.read_of_apart (o := ⟨.captcha siteKey s', extra⟩) hoptions hapart
    exact ⟨_, hagain.symm⟩

theorem IsRead.redact {b : RuleBag} (h : b.IsRead) : b.redact.IsRead := by
  refine ⟨?_, ?_⟩
  · rw [kinds_redact]
    exact h.distinct
  · rcases b.secret_cases with hnone | ⟨before, siteKey, extra, s, after, hbefore, rfl⟩
    · rw [redact_without hnone]
      exact h.rules
    · have hrules := h.rules
      rw [redact_secret hbefore]
      rw [List.forall_mem_append, List.forall_mem_cons] at hrules ⊢
      exact ⟨hrules.1, exists_read_ofSecret hrules.2.1, hrules.2.2⟩

theorem MadeOf.redact (hp : Kept p) {b : RuleBag} (h : b.MadeOf p) : b.redact.MadeOf p := by
  refine ⟨h.read.redact, hp.map h.map fun hnames => ?_, ?_⟩
  · rw [keys_toEntries] at hnames ⊢
    rwa [kinds_redact]
  · rcases b.secret_cases with hnone | ⟨before, siteKey, extra, s, after, hbefore, rfl⟩
    · rw [redact_without hnone]
      exact h.rules
    · have hrules := h.rules
      rw [redact_secret hbefore]
      rw [List.forall_mem_append, List.forall_mem_cons] at hrules ⊢
      exact ⟨hrules.1, hrules.2.1.emptied hp, hrules.2.2⟩

end RuleBag

structure Attributes.MadeOf (p : Value → Prop) (a : Attributes) : Prop where
  slug : a.slug.Every p
  displayName : a.displayName.Every p
  description : a.description.Every p
  placeholder : a.placeholder.Every p
  initial : a.initial.Every p
  suggestions : ∀ c ∈ a.suggestions, c.MadeOf p
  rules : ∀ b, a.rules = some b → b.MadeOf p

namespace Attributes

theorem every_listOr {refuse : DefinitionCause} {raw : Value} (h : raw.Every p) {xs : List Value}
    (hread : listOr refuse raw = .ok xs) : ∀ x ∈ xs, x.Every p := by
  rcases listOr_eq_ok_iff.1 hread with rfl | ⟨_, _, rfl⟩
  · exact (every_list_iff.1 h).2
  · exact List.forall_mem_nil _

theorem madeOf_ofEntries (hp : Kept p) {es : List (Value × Value)} (h : Every p (.map es))
    {a : Attributes} (hread : Attributes.ofEntries es = .ok a) : a.MadeOf p := by
  have hfield := hp.every_fieldD h
  have htext : ∀ name, ((field? name es).getD (.text "")).Every p := by
    intro name
    have hfound := hfield name
    unfold fieldD at hfound
    cases hv : field? name es with
    | none => exact hp.every_text ""
    | some v => rwa [hv] at hfound
  have hvalidators := hfield "validators"
  unfold Attributes.ofEntries at hread
  dsimp only at hread
  split at hread
  · obtain ⟨rules, hrules, hread⟩ := bind_eq_ok.1 hread
    obtain ⟨raw, hraw, hread⟩ := bind_eq_ok.1 hread
    obtain ⟨suggestions, hsuggestions, hread⟩ := bind_eq_ok.1 hread
    obtain rfl := Except.ok.inj hrules
    obtain rfl := Except.ok.inj hread
    exact ⟨htext _, htext _, hfield _, hfield _, hfield _,
      Choice.madeOf_of_mapM hp (every_listOr (hfield _) hraw) hsuggestions, nofun⟩
  · rename_i rules hmap
    obtain ⟨_, hrules, hread⟩ := bind_eq_ok.1 hread
    obtain ⟨raw, hraw, hread⟩ := bind_eq_ok.1 hread
    obtain ⟨suggestions, hsuggestions, hread⟩ := bind_eq_ok.1 hread
    obtain rfl := Except.ok.inj hrules
    obtain rfl := Except.ok.inj hread
    rw [hmap] at hvalidators
    refine ⟨htext _, htext _, hfield _, hfield _, hfield _,
      Choice.madeOf_of_mapM hp (every_listOr (hfield _) hraw) hsuggestions, ?_⟩
    rintro _ ⟨⟩
    exact RuleBag.madeOf_ofEntries hp hvalidators
  · obtain ⟨_, hrules, _⟩ := bind_eq_ok.1 hread
    cases hrules

theorem MadeOf.slots (hp : Kept p) {a : Attributes} (h : a.MadeOf p) {type : Value}
    (htype : type.Every p) : ∀ s ∈ a.slots type, ∀ v, s.2 = some v → v.Every p := by
  have hgiven : ∀ w : Value, w.Every p → ∀ v, w.given? = some v → v.Every p := by
    intro w hw v hv
    rw [← getD_given? w, hv] at hw
    exact hw
  have hflag : ∀ (b : Bool) v, (if b then some (Value.bool true) else none) = some v →
    v.Every p := by
    intro b v hv
    cases b with
    | false => cases hv
    | true =>
      obtain rfl := Option.some.inj hv
      exact (every_iff_of_alone rfl rfl).2 hp.yes
  simp only [Attributes.slots, List.forall_mem_cons, List.not_mem_nil, false_implies, forall_const,
    and_true]
  refine ⟨?_, ?_, ?_, hgiven _ h.description, hgiven _ h.placeholder, hgiven _ h.initial, ?_,
    hflag _, ?_, hflag _⟩
  · rintro _ ⟨⟩
    exact h.slug
  · rintro _ ⟨⟩
    exact h.displayName
  · rintro _ ⟨⟩
    exact htype
  · intro v hv
    split at hv
    · cases hv
    · obtain rfl := Option.some.inj hv
      exact Choice.every_list_toValue hp h.suggestions
  · intro v hv
    obtain ⟨b, hb, rfl⟩ := Option.map_eq_some_iff.1 hv
    exact (h.rules b hb).every_toValue hp

theorem MadeOf.redact (hp : Kept p) {a : Attributes} (h : a.MadeOf p) :
    Attributes.MadeOf p { a with rules := a.rules.map RuleBag.redact } := by
  refine ⟨h.slug, h.displayName, h.description, h.placeholder, h.initial, h.suggestions,
    fun b hb => ?_⟩
  obtain ⟨b', hb', rfl⟩ := Option.map_eq_some_iff.1 hb
  exact (h.rules b' hb').redact hp

end Attributes

namespace Field

mutual

def MadeOf (p : Value → Prop) : Field → Prop
  | .leaf _ a => a.MadeOf p
  | .unknown v a => FieldType.ofValue? v = none ∧ v.IsKey ∧ v.Every p ∧ a.MadeOf p
  | .group a children => a.MadeOf p ∧ AllMadeOf p children
  | .select a choices => a.MadeOf p ∧ ∀ c ∈ choices, c.MadeOf p
termination_by structural f => f

def AllMadeOf (p : Value → Prop) : List Field → Prop
  | [] => True
  | f :: fs => MadeOf p f ∧ AllMadeOf p fs
termination_by structural fs => fs

end

mutual

theorem madeOf_ofValue (hp : Kept p) (d : Value) (h : d.Every p) {f : Field}
    (hread : ofValue d = .ok f) : f.MadeOf p := by
  match d with
  | .map es =>
    unfold ofValue ofEntries at hread
    obtain ⟨a, ha, hread⟩ := bind_eq_ok.1 hread
    have hattributes := Attributes.madeOf_ofEntries hp h ha
    dsimp only at hread
    split at hread
    · obtain ⟨raw, _, hread⟩ := bind_eq_ok.1 hread
      obtain ⟨children, hchildren, hread⟩ := bind_eq_ok.1 hread
      obtain rfl := Except.ok.inj hread
      exact ⟨hattributes, madeOf_childrenIn hp es (every_map_iff.1 h).2 hchildren⟩
    · obtain ⟨raw, hraw, hread⟩ := bind_eq_ok.1 hread
      obtain ⟨choices, hchoices, hread⟩ := bind_eq_ok.1 hread
      obtain rfl := Except.ok.inj hread
      have hxs := Attributes.every_listOr (hp.every_fieldD h _) hraw
      exact ⟨hattributes, Choice.madeOf_of_mapM hp hxs hchoices⟩
    · obtain rfl := Except.ok.inj hread
      exact hattributes
    · rename_i htype
      obtain ⟨type, hkey, hread⟩ := bind_eq_ok.1 hread
      obtain rfl := Except.ok.inj hread
      obtain rfl := Validation.eq_of_asKey hkey
      exact ⟨htype, hkey, hp.every_fieldD h _, hattributes⟩
  | .null | .bool _ | .int _ | .float _ | .text _ | .bytes _ | .list _ | .tuple _ | .date _
  | .moment _ | .set _ | .answer _ _ | .upload _ _ _ _ _ => cases hread
termination_by structural d

theorem madeOf_childrenIn (hp : Kept p) (es : List (Value × Value)) (h : ∀ e ∈ es, e.2.Every p)
    {fs : List Field} (hread : childrenIn es = .ok fs) : AllMadeOf p fs := by
  match es with
  | [] =>
    obtain rfl := Except.ok.inj hread
    trivial
  | (k, v) :: es =>
    rw [List.forall_mem_cons] at h
    unfold childrenIn at hread
    split at hread
    · exact madeOf_ofListValue hp v h.1 hread
    · exact madeOf_childrenIn hp es h.2 hread
termination_by structural es

theorem madeOf_ofListValue (hp : Kept p) (v : Value) (h : v.Every p) {fs : List Field}
    (hread : ofListValue v = .ok fs) : AllMadeOf p fs := by
  match v with
  | .list xs => exact madeOf_ofValues hp xs (every_list_iff.1 h).2 hread
  | .null | .bool _ | .int _ | .float _ | .text _ | .bytes _ | .map _ | .tuple _ | .date _
  | .moment _ | .set _ | .answer _ _ | .upload _ _ _ _ _ =>
    obtain rfl := Except.ok.inj hread
    trivial
termination_by structural v

theorem madeOf_ofValues (hp : Kept p) (xs : List Value) (h : ∀ x ∈ xs, x.Every p) {fs : List Field}
    (hread : ofValues xs = .ok fs) : AllMadeOf p fs := by
  match xs with
  | [] =>
    obtain rfl := Except.ok.inj hread
    trivial
  | x :: xs =>
    rw [List.forall_mem_cons] at h
    obtain ⟨f, hf, hread⟩ := bind_eq_ok.1 hread
    obtain ⟨fs, hfs, hread⟩ := bind_eq_ok.1 hread
    obtain rfl := Except.ok.inj hread
    exact ⟨madeOf_ofValue hp x h.1 hf, madeOf_ofValues hp xs h.2 hfs⟩
termination_by structural xs

end

mutual

theorem MadeOf.redact (hp : Kept p) (f : Field) (h : f.MadeOf p) : f.redact.MadeOf p := by
  match f with
  | .group a children => exact ⟨h.1, allMadeOf_redactAll hp children h.2⟩
  | .leaf t a =>
    cases t with
    | captcha => exact Attributes.MadeOf.redact hp h
    | _ => exact h
  | .unknown v a => exact h
  | .select a choices => exact h
termination_by structural f

theorem allMadeOf_redactAll (hp : Kept p) (fs : List Field) (h : AllMadeOf p fs) :
    AllMadeOf p (redactAll fs) := by
  match fs with
  | [] => trivial
  | f :: fs => exact ⟨MadeOf.redact hp f h.1, allMadeOf_redactAll hp fs h.2⟩
termination_by structural fs

end

theorem every_toValue_of_slots (hp : Kept p) {f : Field} (h : f.attributes.MadeOf p)
    (htype : f.typeValue.Every p) (hown : ∀ s ∈ f.ownSlots, ∀ v, s.2 = some v → v.Every p) :
    f.toValue.Every p := by
  have hslots : ∀ s ∈ f.slots, ∀ v, s.2 = some v → v.Every p :=
    List.forall_mem_append.2 ⟨h.slots hp htype, hown⟩
  unfold Field.toValue
  rw [toEntries_eq]
  exact every_map_iff.2
    ⟨hp.named (areTextKeys_entriesOf f.nodup_slots), forall_mem_entriesOf hslots⟩

mutual

theorem MadeOf.toValue (hp : Kept p) (f : Field) (h : f.MadeOf p) :
    f.toValue.Every p ∧ ofValue f.toValue = .ok f := by
  match f with
  | .leaf t a =>
    have ha : a.MadeOf p := h
    exact ⟨every_toValue_of_slots hp ha (hp.every_text _) (List.forall_mem_nil _),
      ofValue_leaf t fun b hb => (ha.rules b hb).read⟩
  | .unknown v a =>
    obtain ⟨htype, hkey, hv, ha⟩ := h
    exact ⟨every_toValue_of_slots hp ha hv (List.forall_mem_nil _),
      ofValue_unknown htype hkey fun b hb => (ha.rules b hb).read⟩
  | .group a children =>
    obtain ⟨ha, hchildren⟩ := h
    obtain ⟨hvalues, hread⟩ := AllMadeOf.toValues hp children hchildren
    refine ⟨every_toValue_of_slots hp ha (hp.every_text _) (List.forall_mem_singleton.2 ?_),
      ofValue_group (fun b hb => (ha.rules b hb).read) hread⟩
    rintro _ ⟨⟩
    exact hp.every_list hvalues
  | .select a choices =>
    obtain ⟨ha, hchoices⟩ := h
    refine ⟨every_toValue_of_slots hp ha (hp.every_text _) (List.forall_mem_singleton.2 ?_),
      ofValue_select choices fun b hb => (ha.rules b hb).read⟩
    rintro _ ⟨⟩
    exact Choice.every_list_toValue hp hchoices
termination_by structural f

theorem AllMadeOf.toValues (hp : Kept p) (fs : List Field) (h : AllMadeOf p fs) :
    (∀ v ∈ toValues fs, v.Every p) ∧ ofValues (toValues fs) = .ok fs := by
  match fs with
  | [] => exact ⟨List.forall_mem_nil _, rfl⟩
  | f :: fs =>
    obtain ⟨hvalue, hread⟩ := MadeOf.toValue hp f h.1
    obtain ⟨hvalues, hreads⟩ := AllMadeOf.toValues hp fs h.2
    refine ⟨List.forall_mem_cons.2 ⟨hvalue, hvalues⟩, ?_⟩
    have hfirst : ofValue (.map f.toEntries) = .ok f := hread
    unfold toValues ofValues
    rw [hfirst, hreads]
    rfl
termination_by structural fs

end

end Field

namespace Field.Shorthand

theorem every_longChoices (hp : Kept p) {v : Value} (h : v.Every p) : (longChoices v).Every p := by
  cases v with
  | list xs =>
    refine hp.every_list (List.forall_mem_map.2 fun x hx => ?_)
    have helement := (every_list_iff.1 h).2 x hx
    unfold longChoice
    split
    · exact helement
    · exact hp.every_named [("value", x)] (List.nodup_singleton _)
        (List.forall_mem_singleton.2 helement)
  | _ => exact hp.every_list (List.forall_mem_nil _)

@[simp, grind =] theorem keys_expandChildren (es : List (Value × Value)) :
    (expandChildren es).map (·.1) = es.map (·.1) := by
  induction es with
  | nil => rfl
  | cons e es ih =>
    obtain ⟨k, v⟩ := e
    unfold expandChildren
    split
    · rfl
    · exact congrArg (k :: ·) ih

mutual

theorem every_expand (hp : Kept p) (v : Value) (h : v.Every p) : (expand v).Every p := by
  match v with
  | .map es =>
    by_cases hgroup : hasType "group" es = true
    · obtain ⟨hself, hes⟩ := every_map_iff.1 h
      rw [expand_of_group hgroup]
      refine every_map_iff.2 ⟨hp.map hself fun hnames => ?_, every_expandChildren hp es hes⟩
      rwa [keys_expandChildren]
    · by_cases hselect : hasType "select" es = true
      · rw [expand_of_select hselect]
        obtain ⟨hself, hes⟩ := every_map_iff.1 h
        refine every_map_iff.2 ⟨hp.map hself fun hnames => hnames.setEntry ⟨_, rfl⟩ _, ?_⟩
        exact forall_mem_setEntry hes (every_longChoices hp (hp.every_fieldD h _)) _
      · rw [expand_of_neither hselect hgroup]
        exact h
  | .null | .bool _ | .int _ | .float _ | .text _ | .bytes _ | .list _ | .tuple _ | .date _
  | .moment _ | .set _ | .answer _ _ | .upload _ _ _ _ _ => exact h
termination_by structural v

theorem every_expandChildren (hp : Kept p) (es : List (Value × Value)) (h : ∀ e ∈ es, e.2.Every p) :
    ∀ e ∈ expandChildren es, e.2.Every p := by
  match es with
  | [] => exact h
  | (k, v) :: es =>
    rw [List.forall_mem_cons] at h
    unfold expandChildren
    split
    · exact List.forall_mem_cons.2 ⟨every_expandList hp v h.1, h.2⟩
    · exact List.forall_mem_cons.2 ⟨h.1, every_expandChildren hp es h.2⟩
termination_by structural es

theorem every_expandList (hp : Kept p) (v : Value) (h : v.Every p) : (expandList v).Every p := by
  match v with
  | .list xs => exact hp.every_list (every_expandAll hp xs (every_list_iff.1 h).2)
  | .null | .bool _ | .int _ | .float _ | .text _ | .bytes _ | .map _ | .tuple _ | .date _
  | .moment _ | .set _ | .answer _ _ | .upload _ _ _ _ _ => exact h
termination_by structural v

theorem every_expandAll (hp : Kept p) (xs : List Value) (h : ∀ x ∈ xs, x.Every p) :
    ∀ x ∈ expandAll xs, x.Every p := by
  match xs with
  | [] => exact h
  | x :: xs =>
    rw [List.forall_mem_cons] at h
    exact List.forall_mem_cons.2 ⟨every_expand hp x h.1, every_expandAll hp xs h.2⟩
termination_by structural xs

end

end Field.Shorthand

end Intake
