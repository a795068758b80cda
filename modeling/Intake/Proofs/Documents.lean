import Intake.Field.Document
import Intake.Proofs.Values
import Mathlib.Data.List.Induction
import Mathlib.Data.List.Nodup

/-! Documents of fields. A field that has been read is written as a map whose names are distinct and
where what is not given is left out, so that reading the map again finds every part as it was. -/

namespace Intake

namespace Value

def given? (v : Value) : Option Value := if v.isNull then none else some v

@[simp, grind =] theorem getD_given? (v : Value) : v.given?.getD .null = v := by
  cases v <;> rfl

def slotEntry (s : String × Option Value) : List (Value × Value) :=
  (s.2.map fun v => (text s.1, v)).toList

def entriesOf (slots : List (String × Option Value)) : List (Value × Value) :=
  slots.flatMap slotEntry

@[simp, grind =] theorem field?_append (name : String) (xs ys : List (Value × Value)) :
    field? name (xs ++ ys) = (field? name xs).or (field? name ys) := by
  unfold field? lookup
  rw [List.find?_append]
  cases xs.find? fun e => (Value.text name).equal e.1 <;> rfl

theorem field?_cons (name : String) (k v : Value) (es : List (Value × Value)) :
    field? name ((k, v) :: es) = if equal (text name) k then some v else field? name es := by
  unfold field? lookup
  rw [List.find?_cons]
  cases equal (text name) k <;> rfl

@[simp, grind =] theorem field?_cons_self (name : String) (v : Value) (es : List (Value × Value)) :
    field? name ((.text name, v) :: es) = some v := by
  have hself : (text name).equal (text name) = true := text_equal_iff.2 rfl
  rw [field?_cons, if_pos hself]

theorem field?_cons_of_ne {name other : String} (h : name ≠ other) (v : Value)
    (es : List (Value × Value)) : field? name ((.text other, v) :: es) = field? name es := by
  have hother : ¬ (text name).equal (text other) = true :=
    fun hequal => h (text.inj (text_equal_iff.1 hequal)).symm
  rw [field?_cons, if_neg hother]

theorem field?_entriesOf_of_not_mem {slots : List (String × Option Value)} {name : String}
    (h : name ∉ slots.map (·.1)) : field? name (entriesOf slots) = none := by
  induction slots with
  | nil => rfl
  | cons s slots ih =>
    obtain ⟨other, v⟩ := s
    rw [List.map_cons, List.mem_cons, not_or] at h
    have hrest := ih h.2
    cases v with
    | none => exact hrest
    | some v => exact (field?_cons_of_ne h.1 v _).trans hrest

theorem field?_entriesOf {slots : List (String × Option Value)}
    (hdistinct : (slots.map (·.1)).Nodup)
    {name : String} {v : Option Value} (h : (name, v) ∈ slots) :
    field? name (entriesOf slots) = v := by
  induction slots with
  | nil => cases h
  | cons s slots ih =>
    obtain ⟨other, w⟩ := s
    rw [List.map_cons, List.nodup_cons] at hdistinct
    obtain ⟨hfirst, hrest⟩ := hdistinct
    rcases List.mem_cons.1 h with heq | hmem
    · obtain ⟨rfl, rfl⟩ := Prod.mk.inj heq
      cases v with
      | none =>
        have hnone := field?_entriesOf_of_not_mem hfirst
        exact hnone
      | some v => exact field?_cons_self name v _
    · have hother : name ≠ other := by
        rintro rfl
        exact hfirst (List.mem_map.2 ⟨_, hmem, rfl⟩)
      cases w with
      | none => exact ih hrest hmem
      | some w => exact (field?_cons_of_ne hother w _).trans (ih hrest hmem)

theorem setEntry_cases {α : Type} (key : Value) (x : α) (entries : List (Value × α)) :
    (∃ before e after, entries = before ++ e :: after ∧ key.equal e.1 = true ∧
      setEntry key x entries = before ++ (e.1, x) :: after) ∨
    (∀ e ∈ entries, key.equal e.1 = false) ∧ setEntry key x entries = entries ++ [(key, x)] := by
  induction entries with
  | nil => exact .inr ⟨nofun, rfl⟩
  | cons e entries ih =>
    unfold setEntry
    by_cases hkey : key.equal e.1 = true
    · rw [if_pos hkey]
      exact .inl ⟨[], e, entries, rfl, hkey, rfl⟩
    · rw [if_neg hkey]
      rcases ih with ⟨before, e', after, rfl, hequal, hset⟩ | ⟨hnone, hset⟩
      · rw [hset]
        exact .inl ⟨e :: before, e', after, rfl, hequal, rfl⟩
      · rw [hset]
        exact .inr ⟨List.forall_mem_cons.2 ⟨Bool.eq_false_iff.2 hkey, hnone⟩, rfl⟩

end Value

open Value

theorem Choice.ofValue_again (choice : Choice) : Choice.ofValue choice.toValue = .ok choice := by
  obtain ⟨value, name⟩ := choice
  cases name <;> rfl

namespace Options

def slots (o : Options) : List (String × Option Value) := o.named.map fun n => (n.1, n.2.given?)

theorem nodup_slots (o : Options) : (o.slots.map (·.1)).Nodup := by
  cases o <;> exact of_decide_eq_true rfl

theorem declares_name {o : Options} {n : String × Value} (h : n ∈ o.named) :
    o.declares (.text n.1) = true :=
  List.any_eq_true.2 ⟨n, h, text_equal_iff.2 rfl⟩

end Options

theorem RuleKind.options?_of_named {kind : RuleKind} {get get' : String → Value} {o : Options}
    (h : kind.options? get = some o) (hget : ∀ n ∈ o.named, get' n.1 = n.2) :
    kind.options? get' = some o := by
  cases kind <;> cases h
  all_goals
    simp only [Options.named, List.forall_mem_cons] at hget
    simp only [RuleKind.options?, hget]

theorem RuleKind.ofKey?_of_equal {k k' : Value} (h : k.equal k' = true) : ofKey? k = ofKey? k' := by
  apply Option.ext
  intro kind
  rw [ofKey?_eq_some_iff, ofKey?_eq_some_iff]
  constructor
  · rintro rfl
    exact text_equal_iff.1 h
  · rintro rfl
    exact equal_text_iff.1 h

namespace OptionMap

def Apart (o : OptionMap) : Prop := ∀ e ∈ o.extra, o.options.declares e.1 = false

theorem toEntries_eq (o : OptionMap) : o.toEntries = entriesOf o.options.slots ++ o.extra := by
  have hgiven : ∀ named : List (String × Value),
      ((named.filter fun n => !n.2.isNull).map fun n => (Value.text n.1, n.2)) =
        entriesOf (named.map fun n => (n.1, n.2.given?)) := by
    intro named
    induction named with
    | nil => rfl
    | cons n named ih =>
      obtain ⟨name, v⟩ := n
      rw [List.map_cons, entriesOf, List.flatMap_cons, ← entriesOf, ← ih, List.filter_cons]
      cases v <;> rfl
  unfold toEntries given Options.slots
  rw [hgiven]

theorem fieldD_toEntries {o : OptionMap} (ho : o.Apart) {n : String × Value}
    (hn : n ∈ o.options.named) : fieldD n.1 o.toEntries = n.2 := by
  have hextra : field? n.1 o.extra = none := by
    unfold field? lookup
    rw [Option.map_eq_none_iff, List.find?_eq_none]
    intro e he hequal
    have hdeclared : o.options.declares e.1 = true := List.any_eq_true.2 ⟨n, hn, hequal⟩
    rw [ho e he] at hdeclared
    cases hdeclared
  have hslot : (n.1, n.2.given?) ∈ o.options.slots := List.mem_map.2 ⟨n, hn, rfl⟩
  unfold fieldD
  rw [toEntries_eq, field?_append, hextra, Option.or_none,
    field?_entriesOf o.options.nodup_slots hslot, getD_given?]

theorem filter_toEntries {o : OptionMap} (ho : o.Apart) :
    (o.toEntries.filter fun e => !o.options.declares e.1) = o.extra := by
  have hgiven : ((o.given.map fun n => (Value.text n.1, n.2)).filter
      fun e => !o.options.declares e.1) = [] := by
    rw [List.filter_eq_nil_iff, List.forall_mem_map]
    intro n hn
    have hdeclared := Options.declares_name (List.mem_filter.1 hn).1
    simp only [hdeclared, Bool.not_true, Bool.false_eq_true, not_false_eq_true]
  have hextra : (o.extra.filter fun e => !o.options.declares e.1) = o.extra := by
    rw [List.filter_eq_self]
    intro e he
    rw [ho e he]
    rfl
  unfold toEntries
  rw [List.filter_append, hgiven, hextra, List.nil_append]

end OptionMap

namespace Rule

theorem read_map (k : RuleKind) (entries : List (Value × Value)) :
    Rule.read (some k) (.map entries) =
      match k.options? fun name => fieldD name entries with
      | some o => .options ⟨o, entries.filter fun e => !o.declares e.1⟩
      | none => .plain (.map entries) := rfl

theorem read_cases (kind : Option RuleKind) (raw : Value) :
    Rule.read kind raw = .plain raw ∨ ∃ k o get, kind = some k ∧
      k.options? get = some o.options ∧ o.Apart ∧ Rule.read kind raw = .options o := by
  cases raw with
  | map entries =>
    cases kind with
    | none => exact .inl rfl
    | some k =>
      rw [read_map]
      cases hoptions : k.options? fun name => fieldD name entries with
      | none => exact .inl rfl
      | some options =>
        refine .inr ⟨k, ⟨options, _⟩, _, rfl, hoptions, fun e he => ?_, rfl⟩
        exact (Bool.not_eq_true' _).mp (List.mem_filter.1 he).2
  | _ => exact .inl rfl

theorem read_of_apart {k : RuleKind} {o : OptionMap} {get : String → Value}
    (hoptions : k.options? get = some o.options) (ho : o.Apart) :
    Rule.read (some k) (.map o.toEntries) = .options o := by
  have hagain : (k.options? fun name => fieldD name o.toEntries) = some o.options :=
    RuleKind.options?_of_named hoptions fun n hn => o.fieldD_toEntries ho hn
  rw [read_map, hagain]
  simp only [o.filter_toEntries ho]

@[simp] theorem read_toValue (kind : Option RuleKind) (raw : Value) :
    Rule.read kind (Rule.read kind raw).toValue = Rule.read kind raw := by
  rcases read_cases kind raw with hplain | ⟨k, o, get, rfl, hoptions, ho, hread⟩
  · rw [hplain]
    exact hplain
  · rw [hread]
    exact read_of_apart hoptions ho

end Rule

namespace RuleBag

/-- A bag that has been read: no kind equals one that stands before it, and every rule is one that
its kind is read to. -/
structure IsRead (b : RuleBag) : Prop where
  distinct : b.kinds.Pairwise fun k k' => k'.equal k = false
  rules : ∀ e ∈ b.rules, ∃ raw, e.2 = Rule.read (RuleKind.ofKey? e.1) raw

theorem isRead_empty : empty.IsRead := ⟨.nil, nofun⟩

theorem insert_of_not_equal {b : RuleBag} {key : Value} (h : ∀ k ∈ b.kinds, key.equal k = false)
    (rule : Rule) : b.insert key rule = ⟨b.rules ++ [(key, rule)]⟩ := by
  unfold insert
  rcases setEntry_cases key rule b.rules with ⟨before, e, after, hentries, hequal, _⟩ | ⟨_, hset⟩
  · have hmem : e.1 ∈ b.kinds := by
      unfold kinds
      rw [hentries]
      exact List.mem_map_of_mem (List.mem_append_right _ List.mem_cons_self)
    rw [h e.1 hmem] at hequal
    cases hequal
  · rw [hset]

theorem distinct_insert {b : RuleBag} (h : b.kinds.Pairwise fun k k' => k'.equal k = false)
    (key : Value) (rule : Rule) :
    (b.insert key rule).kinds.Pairwise fun k k' => k'.equal k = false := by
  unfold RuleBag.insert
  unfold kinds at h ⊢
  rcases setEntry_cases key rule b.rules with ⟨before, e, after, hentries, _, hset⟩ | ⟨hnone, hset⟩
  -- a rule that is set in its place leaves the keys as they are
  · rw [hset]
    rw [hentries, List.map_append, List.map_cons] at h
    rw [List.map_append, List.map_cons]
    exact h
  · rw [hset, List.map_append, List.pairwise_append]
    refine ⟨h, List.pairwise_singleton _ _, fun k hk k' hk' => ?_⟩
    obtain ⟨e, he, rfl⟩ := List.mem_map.1 hk
    obtain rfl := List.mem_singleton.1 hk'
    exact hnone e he

theorem IsRead.insert {b : RuleBag} (h : b.IsRead) (key raw : Value) :
    (b.insert key (Rule.read (RuleKind.ofKey? key) raw)).IsRead := by
  refine ⟨distinct_insert h.distinct key _, ?_⟩
  have hrules := h.rules
  unfold RuleBag.insert
  rcases setEntry_cases key (Rule.read (RuleKind.ofKey? key) raw) b.rules with
    ⟨before, e, after, hentries, hequal, hset⟩ | ⟨_, hset⟩
  · rw [hset]
    rw [hentries] at hrules
    intro e' he'
    rcases List.mem_append.1 he' with hbefore | he'
    · exact hrules e' (List.mem_append_left _ hbefore)
    · rcases List.mem_cons.1 he' with rfl | hafter
      -- the key there is of the kind for which the rule has been read
      · exact ⟨raw, by rw [RuleKind.ofKey?_of_equal hequal]⟩
      · exact hrules e' (List.mem_append_right _ (List.mem_cons_of_mem _ hafter))
  · rw [hset]
    refine List.forall_mem_append.2 ⟨hrules, fun e he => ?_⟩
    obtain rfl := List.mem_singleton.1 he
    exact ⟨raw, rfl⟩

theorem isRead_ofEntries (es : List (Value × Value)) : (ofEntries es).IsRead := by
  have hfold : ∀ (es : List (Value × Value)) (b : RuleBag), b.IsRead →
      ((es.map fun e => (e.1, Rule.read (RuleKind.ofKey? e.1) e.2)).foldl
        (fun b e => b.insert e.1 e.2) b).IsRead := by
    intro es
    induction es with
    | nil => exact fun b hb => hb
    | cons e es ih => exact fun b hb => ih _ (hb.insert e.1 e.2)
  exact hfold es empty isRead_empty

theorem ofRules_of_distinct {rules : List (Value × Rule)}
    (h : (rules.map (·.1)).Pairwise fun k k' => k'.equal k = false) : ofRules rules = ⟨rules⟩ := by
  induction rules using List.reverseRecOn with
  | nil => rfl
  | append_singleton rules e ih =>
    rw [List.map_append, List.pairwise_append] at h
    obtain ⟨hrules, _, hlast⟩ := h
    have hbefore : rules.foldl (fun b e => b.insert e.1 e.2) empty = ⟨rules⟩ := ih hrules
    unfold ofRules
    rw [List.foldl_append, hbefore]
    exact insert_of_not_equal (fun k hk => hlast k hk e.1 List.mem_cons_self) e.2

theorem ofEntries_toEntries_of_distinct {b : RuleBag}
    (h : b.kinds.Pairwise fun k k' => k'.equal k = false) :
    ofEntries b.toEntries =
      ⟨b.rules.map fun e => (e.1, Rule.read (RuleKind.ofKey? e.1) e.2.toValue)⟩ := by
  unfold ofEntries toEntries
  rw [List.map_map]
  apply ofRules_of_distinct
  rw [List.map_map]
  exact h

theorem IsRead.ofEntries_toEntries {b : RuleBag} (h : b.IsRead) : ofEntries b.toEntries = b := by
  obtain ⟨hdistinct, hrules⟩ := h
  have hread : (b.rules.map fun e => (e.1, Rule.read (RuleKind.ofKey? e.1) e.2.toValue)) =
      b.rules := by
    refine (List.map_congr_left fun e he => ?_).trans (List.map_id b.rules)
    obtain ⟨raw, hraw⟩ := hrules e he
    obtain ⟨key, rule⟩ := e
    obtain rfl : rule = Rule.read (RuleKind.ofKey? key) raw := hraw
    exact Prod.ext rfl (Rule.read_toValue _ raw)
  rw [ofEntries_toEntries_of_distinct hdistinct, hread]

end RuleBag

@[simp] theorem listOr_list (refuse : DefinitionCause) (xs : List Value) :
    listOr refuse (.list xs) = .ok xs := by
  cases xs <;> rfl

theorem Choice.mapM_ofValue (choices : List Choice) :
    (choices.map toValue).mapM Choice.ofValue = .ok choices := by
  induction choices with
  | nil => rfl
  | cons choice choices ih =>
    rw [List.map_cons, List.mapM_cons, ofValue_again, ih]
    rfl

namespace Attributes

def slots (a : Attributes) (type : Value) : List (String × Option Value) :=
  [("slug", some a.slug), ("displayName", some a.displayName), ("type", some type),
    ("description", a.description.given?), ("placeholderValue", a.placeholder.given?),
    ("initialValue", a.initial.given?),
    ("suggestions", if a.suggestions.isEmpty then none
      else some (.list (a.suggestions.map Choice.toValue))),
    ("allowMultiple", if a.allowMultiple then some (.bool true) else none),
    ("validators", a.rules.map RuleBag.toValue),
    ("public", if a.isPublic then some (.bool true) else none)]

theorem commonEntries_eq (a : Attributes) (type : Value) :
    Field.commonEntries type a = entriesOf (a.slots type) := by
  have hentry : ∀ name (v : Value), Field.entry name v = slotEntry (name, v.given?) := by
    intro name v
    cases v <;> rfl
  have hflag : ∀ (b : Bool) name, (if b then [(text name, bool true)] else []) =
      slotEntry (name, if b then some (bool true) else none) := by
    intro b name
    cases b <;> rfl
  have hsuggestions : (if a.suggestions.isEmpty then []
      else [(text "suggestions", list (a.suggestions.map Choice.toValue))]) =
        slotEntry ("suggestions", if a.suggestions.isEmpty then none
          else some (list (a.suggestions.map Choice.toValue))) := by
    cases a.suggestions <;> rfl
  unfold Field.commonEntries entriesOf slots
  rw [hentry, hentry, hentry, hflag, hflag, hsuggestions]
  simp only [List.flatMap_cons, List.flatMap_nil, List.append_nil, List.append_assoc]
  cases a.rules <;> rfl

theorem ofEntries_slots {a : Attributes} (hrules : ∀ b, a.rules = some b → b.IsRead) {type : Value}
    {own : List (String × Option Value)} (hdistinct : ((a.slots type ++ own).map (·.1)).Nodup) :
    Attributes.ofEntries (entriesOf (a.slots type ++ own)) = .ok a := by
  have hget : ∀ {name v}, (name, v) ∈ a.slots type →
      field? name (entriesOf (a.slots type ++ own)) = v :=
    fun h => field?_entriesOf hdistinct (List.mem_append_left own h)
  generalize entriesOf (a.slots type ++ own) = es at hget
  have hgetD : ∀ {name v}, (name, v) ∈ a.slots type → fieldD name es = v.getD .null := by
    intro name v h
    unfold fieldD
    rw [hget h]
  have hslug : field? "slug" es = some a.slug := hget (by simp [slots])
  have hdisplay : field? "displayName" es = some a.displayName := hget (by simp [slots])
  have hdescription : fieldD "description" es = a.description :=
    (hgetD (by simp [slots])).trans (getD_given? a.description)
  have hplaceholder : fieldD "placeholderValue" es = a.placeholder :=
    (hgetD (by simp [slots])).trans (getD_given? a.placeholder)
  have hinitial : fieldD "initialValue" es = a.initial :=
    (hgetD (by simp [slots])).trans (getD_given? a.initial)
  have hsuggestions : ∀ refuse, listOr refuse (fieldD "suggestions" es) =
      .ok (a.suggestions.map Choice.toValue) := by
    have hwritten : fieldD "suggestions" es = (if a.suggestions.isEmpty then none
        else some (list (a.suggestions.map Choice.toValue))).getD .null := hgetD (by simp [slots])
    intro refuse
    rw [hwritten]
    cases a.suggestions <;> rfl
  have hmultiple : (fieldD "allowMultiple" es).truthy = a.allowMultiple := by
    have hwritten : fieldD "allowMultiple" es =
        (if a.allowMultiple then some (bool true) else none).getD .null := hgetD (by simp [slots])
    rw [hwritten]
    cases a.allowMultiple <;> rfl
  have hpublic : (fieldD "public" es).isTrue = a.isPublic := by
    have hwritten : fieldD "public" es =
        (if a.isPublic then some (bool true) else none).getD .null := hgetD (by simp [slots])
    rw [hwritten]
    cases a.isPublic <;> rfl
  have hvalidators : fieldD "validators" es = (a.rules.map RuleBag.toValue).getD .null :=
    hgetD (by simp [slots])
  have hchoices := Choice.mapM_ofValue a.suggestions
  unfold Attributes.ofEntries
  simp only [hslug, hdisplay, hdescription, hplaceholder, hinitial, hsuggestions, hmultiple,
    hpublic,
    hvalidators]
  obtain ⟨slug, displayName, description, placeholder, initial, suggestions, allowMultiple, rules,
    isPublic⟩ := a
  cases rules with
  | none =>
    simp only [Option.map_none, Option.getD_none, pure_bind]
    rw [bind_eq_ok]
    exact ⟨_, rfl, bind_eq_ok.2 ⟨_, hchoices, rfl⟩⟩
  | some b =>
    simp only [Option.map_some, Option.getD_some, RuleBag.toValue, pure_bind]
    rw [bind_eq_ok, (hrules b rfl).ofEntries_toEntries]
    exact ⟨_, rfl, bind_eq_ok.2 ⟨_, hchoices, rfl⟩⟩

theorem isRead_of_ofEntries {es : List (Value × Value)} {a : Attributes}
    (h : Attributes.ofEntries es = .ok a) : ∀ b, a.rules = some b → b.IsRead := by
  have hparts : ∃ rules : Option (List (Value × Value)), a.rules = rules.map RuleBag.ofEntries := by
    unfold Attributes.ofEntries at h
    dsimp only at h
    split at h
    all_goals
      obtain ⟨rules, _, h⟩ := bind_eq_ok.1 h
      obtain ⟨raw, _, h⟩ := bind_eq_ok.1 h
      obtain ⟨suggestions, _, h⟩ := bind_eq_ok.1 h
      obtain rfl := Except.ok.inj h
      exact ⟨rules, rfl⟩
  intro b hb
  obtain ⟨rules, hrules⟩ := hparts
  rw [hrules] at hb
  obtain ⟨es, _, rfl⟩ := Option.map_eq_some_iff.1 hb
  exact RuleBag.isRead_ofEntries es

end Attributes

namespace Field

def ownSlots : Field → List (String × Option Value)
  | .group _ children => [("fields", some (.list (toValues children)))]
  | .select _ choices => [("options", some (.list (choices.map Choice.toValue)))]
  | _ => []

def slots (f : Field) : List (String × Option Value) := f.attributes.slots f.typeValue ++ f.ownSlots

theorem nodup_slots (f : Field) : (f.slots.map (·.1)).Nodup := by
  cases f <;> exact of_decide_eq_true rfl

theorem toEntries_eq (f : Field) : f.toEntries = entriesOf f.slots := by
  cases f with
  | leaf t a | unknown t a =>
    unfold toEntries
    rw [Attributes.commonEntries_eq]
    exact congrArg entriesOf (List.append_nil _).symm
  | group a children | select a choices =>
    unfold toEntries slots entriesOf
    rw [Attributes.commonEntries_eq, List.flatMap_append]
    rfl

theorem field?_toEntries {f : Field} {name : String} {v : Option Value} (h : (name, v) ∈ f.slots) :
    field? name f.toEntries = v := by
  rw [toEntries_eq]
  exact field?_entriesOf f.nodup_slots h

@[simp] theorem fieldD_type (f : Field) : fieldD "type" f.toEntries = f.typeValue := by
  have htype : field? "type" f.toEntries = some f.typeValue :=
    field?_toEntries (List.mem_append_left _ (by simp [Attributes.slots]))
  unfold fieldD
  rw [htype]
  rfl

theorem ofEntries_attributes {f : Field} (h : ∀ b, f.attributes.rules = some b → b.IsRead) :
    Attributes.ofEntries f.toEntries = .ok f.attributes := by
  rw [toEntries_eq]
  exact Attributes.ofEntries_slots h f.nodup_slots

theorem childrenIn_eq (es : List (Value × Value)) :
    childrenIn es = ((field? "fields" es).map ofListValue).getD (.ok []) := by
  induction es with
  | nil => rfl
  | cons e es ih =>
    obtain ⟨k, v⟩ := e
    rw [childrenIn, field?_cons, ih]
    cases Value.equal (.text "fields") k <;> rfl

variable {a : Attributes}

theorem ofValue_leaf (t : LeafType) (h : ∀ b, a.rules = some b → b.IsRead) :
    ofValue (toValue (.leaf t a)) = .ok (.leaf t a) := by
  have htype : FieldType.ofValue? (typeValue (.leaf t a)) = some (.leaf t) :=
    FieldType.ofValue?_name (.leaf t)
  refine bind_eq_ok.2 ⟨a, ofEntries_attributes (f := .leaf t a) h, ?_⟩
  dsimp only
  rw [fieldD_type, htype]
  rfl

theorem ofValue_unknown {v : Value} (hv : FieldType.ofValue? v = none) (hkey : v.IsKey)
    (h : ∀ b, a.rules = some b → b.IsRead) :
    ofValue (toValue (.unknown v a)) = .ok (.unknown v a) := by
  have htype : FieldType.ofValue? (typeValue (.unknown v a)) = none := hv
  refine bind_eq_ok.2 ⟨a, ofEntries_attributes (f := .unknown v a) h, ?_⟩
  dsimp only
  rw [fieldD_type, htype]
  exact bind_eq_ok.2 ⟨v, hkey, rfl⟩

theorem ofValue_select (choices : List Choice) (h : ∀ b, a.rules = some b → b.IsRead) :
    ofValue (toValue (.select a choices)) = .ok (.select a choices) := by
  have htype : FieldType.ofValue? (typeValue (.select a choices)) = some .select :=
    FieldType.ofValue?_name .select
  have hoptions : fieldD "options" (toEntries (.select a choices)) =
      .list (choices.map Choice.toValue) := by
    have hslot : field? "options" (toEntries (.select a choices)) =
        some (.list (choices.map Choice.toValue)) :=
      field?_toEntries (List.mem_append_right _ List.mem_cons_self)
    unfold fieldD
    rw [hslot]
    rfl
  refine bind_eq_ok.2 ⟨a, ofEntries_attributes (f := .select a choices) h, ?_⟩
  dsimp only
  rw [fieldD_type, htype, hoptions]
  refine bind_eq_ok.2 ⟨_, listOr_list _ _, ?_⟩
  exact bind_eq_ok.2 ⟨choices, Choice.mapM_ofValue choices, rfl⟩

theorem ofValue_group {children : List Field} (h : ∀ b, a.rules = some b → b.IsRead)
    (hchildren : ofValues (toValues children) = .ok children) :
    ofValue (toValue (.group a children)) = .ok (.group a children) := by
  have htype : FieldType.ofValue? (typeValue (.group a children)) = some .group :=
    FieldType.ofValue?_name .group
  have hslot : field? "fields" (toEntries (.group a children)) =
      some (.list (toValues children)) :=
    field?_toEntries (List.mem_append_right _ List.mem_cons_self)
  have hfields : fieldD "fields" (toEntries (.group a children)) = .list (toValues children) := by
    unfold fieldD
    rw [hslot]
    rfl
  have hread : childrenIn (toEntries (.group a children)) = .ok children := by
    rw [childrenIn_eq, hslot]
    exact hchildren
  refine bind_eq_ok.2 ⟨a, ofEntries_attributes (f := .group a children) h, ?_⟩
  dsimp only
  rw [fieldD_type, htype, hfields]
  refine bind_eq_ok.2 ⟨_, listOr_list _ _, ?_⟩
  exact bind_eq_ok.2 ⟨children, hread, rfl⟩

mutual

theorem ofValue_again (d : Value) {f : Field} (h : ofValue d = .ok f) :
    ofValue f.toValue = .ok f := by
  match d with
  | .map es =>
    unfold ofValue ofEntries at h
    obtain ⟨a, ha, h⟩ := bind_eq_ok.1 h
    have hrules := Attributes.isRead_of_ofEntries ha
    dsimp only at h
    -- the type decides what is read besides: the fields of a group, the choices of a select
    split at h
    · obtain ⟨raw, _, h⟩ := bind_eq_ok.1 h
      obtain ⟨children, hchildren, h⟩ := bind_eq_ok.1 h
      obtain rfl := Except.ok.inj h
      exact ofValue_group hrules (childrenIn_again es hchildren)
    · obtain ⟨raw, _, h⟩ := bind_eq_ok.1 h
      obtain ⟨choices, _, h⟩ := bind_eq_ok.1 h
      obtain rfl := Except.ok.inj h
      exact ofValue_select choices hrules
    · obtain rfl := Except.ok.inj h
      exact ofValue_leaf _ hrules
    · -- a type that does not exist is kept, and does not exist when it is read again either
      rename_i htype
      obtain ⟨type, hkey, h⟩ := bind_eq_ok.1 h
      obtain rfl := Except.ok.inj h
      obtain rfl := Validation.eq_of_asKey hkey
      exact ofValue_unknown htype hkey hrules
  | .null | .bool _ | .int _ | .float _ | .text _ | .bytes _ | .list _ | .tuple _ | .date _
  | .moment _ | .set _ | .answer _ _ | .upload _ _ _ _ _ => cases h
termination_by structural d

theorem childrenIn_again (es : List (Value × Value)) {fs : List Field}
    (h : childrenIn es = .ok fs) :
    ofValues (toValues fs) = .ok fs := by
  match es with
  | [] =>
    obtain rfl := Except.ok.inj h
    rfl
  | (k, v) :: es =>
    unfold childrenIn at h
    split at h
    · exact ofListValue_again v h
    · exact childrenIn_again es h
termination_by structural es

theorem ofListValue_again (v : Value) {fs : List Field} (h : ofListValue v = .ok fs) :
    ofValues (toValues fs) = .ok fs := by
  match v with
  | .list xs => exact ofValues_again xs h
  | .null | .bool _ | .int _ | .float _ | .text _ | .bytes _ | .map _ | .tuple _ | .date _
  | .set _ | .moment _ | .answer _ _ | .upload _ _ _ _ _ =>
    obtain rfl := Except.ok.inj h
    rfl
termination_by structural v

theorem ofValues_again (xs : List Value) {fs : List Field} (h : ofValues xs = .ok fs) :
    ofValues (toValues fs) = .ok fs := by
  match xs with
  | [] =>
    obtain rfl := Except.ok.inj h
    rfl
  | x :: xs =>
    obtain ⟨f, hf, h⟩ := bind_eq_ok.1 h
    obtain ⟨fs, hfs, h⟩ := bind_eq_ok.1 h
    obtain rfl := Except.ok.inj h
    have hfirst : ofValue (.map f.toEntries) = .ok f := ofValue_again x hf
    unfold toValues ofValues
    rw [hfirst, ofValues_again xs hfs]
    rfl
termination_by structural xs

end

/-- What a field is written as reads as that field, with all that is in it, and is written again in
the same way. -/
theorem ofValue_toValue {d : Value} {f : Field} (h : ofValue d = .ok f) :
    ofValue f.toValue = .ok f ∧ (ofValue f.toValue).map toValue = .ok f.toValue := by
  have hagain := ofValue_again d h
  refine ⟨hagain, ?_⟩
  rw [hagain]
  rfl

def glowing : Value :=
  .map [(.text "type", .text "group"), (.text "colour", .text "red"), (.text "slug", .text "page"),
    (.text "fields", .list [.map [(.text "slug", .text "title"), (.text "type", .text "banner"),
      (.text "validators", .map [(.text "glow", .bool true),
        (.text "string", .map [(.text "tone", .int 3), (.text "minLength", .int 2)])])]])]

/-- The group keeps the title with both rules, and the option that does not exist after the other.
-/
theorem ofValue_toValue_glowing :
    ∃ f, ofValue glowing = .ok f ∧ ofValue f.toValue = .ok f ∧
      f.toValue = .map [(.text "slug", .text "page"), (.text "displayName", .text ""),
        (.text "type", .text "group"),
        (.text "fields",
          .list [.map [(.text "slug", .text "title"), (.text "displayName", .text ""),
          (.text "type", .text "banner"),
          (.text "validators", .map [(.text "glow", .bool true),
            (.text "string", .map [(.text "minLength", .int 2), (.text "tone", .int 3)])])]])] := by
  have hglowing : (ofValue glowing).toOption.map toValue = some _ := rfl
  obtain ⟨f, hf, hwritten⟩ := exists_of_toOption hglowing
  exact ⟨f, hf, (ofValue_toValue hf).1, hwritten⟩

end Field

end Intake
