import Intake.Proofs.Export
import Mathlib.Data.List.Forall2
import Mathlib.Data.List.Nodup

/-! Objects as answers and answers as objects. Nested objects become groups of answers and groups of
answers nested objects, and neither way loses what the other needs: distinct slugs become distinct
keys in the same order. The exception is an object without entries, which becomes a group without
answers; there is no telling it from an empty list, and an empty list is what comes back. -/

namespace Intake

namespace Value

inductive StandsIn (v : Value) : Value → Prop
  | here : StandsIn v v
  | under {es : List (Value × Value)} {e : Value × Value} (he : e ∈ es) (h : StandsIn v e.2) :
      StandsIn v (.map es)

theorem standsIn_map_iff {v : Value} {es : List (Value × Value)} :
    StandsIn v (.map es) ↔ v = .map es ∨ ∃ e ∈ es, StandsIn v e.2 := by
  constructor
  · intro h
    cases h with
    | here => exact .inl rfl
    | under he h => exact .inr ⟨_, he, h⟩
  · rintro (rfl | ⟨e, he, h⟩)
    · exact .here
    · exact .under he h

theorem standsIn_iff_of_not_isMap {v w : Value} (hw : w.isMap = false) :
    StandsIn v w ↔ v = w := by
  constructor
  · intro h
    cases h with
    | here => rfl
    | under => cases hw
  · rintro rfl
    exact .here

structure AreNames (keys : List Value) : Prop where
  named : ∀ k ∈ keys, ∃ s, k = .text s ∧ s ≠ ""
  distinct : keys.Nodup

theorem AreNames.of_cons {k : Value} {keys : List Value} (h : AreNames (k :: keys)) :
    (∃ s, k = .text s ∧ s ≠ "") ∧ k ∉ keys ∧ AreNames keys := by
  obtain ⟨hfirst, hrest⟩ := List.forall_mem_cons.1 h.named
  obtain ⟨hother, hdistinct⟩ := List.nodup_cons.1 h.distinct
  exact ⟨hfirst, hother, hrest, hdistinct⟩

theorem AreNames.of_texts (names : List String) (h : "" ∉ names ∧ names.Nodup) :
    AreNames (names.map .text) := by
  obtain ⟨hnamed, hdistinct⟩ := h
  refine ⟨fun k hk => ?_, List.Nodup.map (fun s t => Value.text.inj) hdistinct⟩
  obtain ⟨s, hs, rfl⟩ := List.mem_map.1 hk
  exact ⟨s, rfl, fun heq => hnamed (heq ▸ hs)⟩

def Named (v : Value) : Prop := ∀ es, StandsIn (.map es) v → AreNames (es.map (·.1))

/-- No list that stands in a value consists of answers, unless it is empty. -/
def Unanswered (v : Value) : Prop :=
  ∀ xs, StandsIn (.list xs) v → xs.all isAnswer = true → xs = []

@[simp] theorem named_map_iff {es : List (Value × Value)} :
    Named (.map es) ↔ AreNames (es.map (·.1)) ∧ ∀ e ∈ es, Named e.2 := by
  constructor
  · exact fun h => ⟨h es .here, fun e he fs hfs => h fs (.under he hfs)⟩
  · intro ⟨hkeys, hvalues⟩ fs hfs
    rcases standsIn_map_iff.1 hfs with heq | ⟨e, he, hfs⟩
    · obtain rfl := Value.map.inj heq
      exact hkeys
    · exact hvalues e he fs hfs

theorem named_of_not_isMap {v : Value} (h : v.isMap = false) : Named v := by
  intro fs hfs
  obtain rfl := (standsIn_iff_of_not_isMap h).1 hfs
  cases h

@[simp] theorem unanswered_map_iff {es : List (Value × Value)} :
    Unanswered (.map es) ↔ ∀ e ∈ es, Unanswered e.2 := by
  constructor
  · exact fun h e he xs hxs => h xs (.under he hxs)
  · intro h xs hxs
    rcases standsIn_map_iff.1 hxs with heq | ⟨e, he, hxs⟩
    · cases heq
    · exact h e he xs hxs

theorem unanswered_of_not_isMap {v : Value} (h : v.isMap = false)
    (hlist : ∀ xs, v = .list xs → xs.all isAnswer = true → xs = []) : Unanswered v :=
  fun xs hxs => hlist xs ((standsIn_iff_of_not_isMap h).1 hxs).symm

theorem setEntry_of_fresh {α : Type} {k : Value} (hk : k.IsText) {entries : List (Value × α)}
    (h : k ∉ entries.map (·.1)) (x : α) : setEntry k x entries = entries ++ [(k, x)] := by
  induction entries with
  | nil => rfl
  | cons e entries ih =>
    rw [List.map_cons, List.mem_cons, not_or] at h
    have hother : ¬ k.equal e.1 = true := fun heq => h.1 (hk.equal_iff.1 heq).symm
    rw [setEntry, if_neg hother, ih h.2, List.cons_append]

end Value

namespace Submission
open Value

/-- An entry is what an answer gives: its slug with the export of its value. -/
def Gives (a : Answer) (e : Value × Value) : Prop := e.1 = a.slug ∧ exported a.value = .ok e.2

theorem entryOf_of_gives {a : Answer} {e : Value × Value} (h : Gives a e) {s : String}
    (hs : a.slug = .text s) (hne : s ≠ "") :
    entryOf (.tuple []) a.toValue = .ok (some (a.slug, e.2)) := by
  have hvalue : objectValue (.tuple []) a.value = .ok e.2 := h.2
  have hkept : ¬ LeftOut [] (.text s) := by
    rw [leftOut_nil_iff]
    exact fun heq => hne (Value.text.inj heq)
  rw [Answer.toValue, hs, entryOf_kept rfl hkept, hvalue]
  rfl

theorem entriesOf_of_gives {answers : List Answer} {es : List (Value × Value)}
    (h : List.Forall₂ Gives answers es) (hnames : AreNames (answers.map (·.slug)))
    {before : List (Value × Value)} (hfresh : ∀ a ∈ answers, a.slug ∉ before.map (·.1)) :
    entriesOf (.tuple []) before (answers.map Answer.toValue) = .ok (before ++ es) := by
  induction h generalizing before with
  | nil => rw [List.append_nil]; rfl
  | @cons a e answers es hgives _ ih =>
    obtain ⟨⟨s, hs, hne⟩, hother, hrest⟩ := hnames.of_cons
    obtain ⟨hfirst, hfresh⟩ := List.forall_mem_cons.1 hfresh
    have hentry := entryOf_of_gives hgives hs hne
    have hset := setEntry_of_fresh ⟨s, hs⟩ hfirst e.2
    have hnext : ∀ b ∈ answers, b.slug ∉ (before ++ [(a.slug, e.2)]).map (·.1) := by
      intro b hb
      rw [List.map_append, List.mem_append, not_or]
      refine ⟨hfresh b hb, fun hmem => hother ?_⟩
      rw [← List.mem_singleton.1 hmem]
      exact List.mem_map.2 ⟨b, hb, rfl⟩
    have heq : (a.slug, e.2) = e := Prod.ext hgives.1.symm rfl
    rw [List.map_cons, entriesOf, hentry]
    show entriesOf (.tuple []) (setEntry a.slug e.2 before) _ = _
    rw [hset, ih hrest hnext, heq, List.append_assoc, List.singleton_append]

theorem toObject_of_gives {answers : List Answer} {es : List (Value × Value)}
    (h : List.Forall₂ Gives answers es) (hnames : AreNames (answers.map (·.slug))) :
    toObject (.tuple []) answers = .ok (.map es) := by
  unfold toObject
  rw [entriesOf_of_gives h hnames fun a _ => List.not_mem_nil]
  rfl

theorem objectValue_group {v : Value} {inner : List Answer} (h : Answer.group? v = some inner)
    (hne : inner ≠ []) (excluded : Value) : objectValue excluded v = toObject excluded inner := by
  rw [objectValue_of_group? h hne]
  rfl

theorem answersOf_eq (es : List (Value × Value)) :
    answersOf es = (ofEntries es).map Answer.toValue := by
  unfold ofEntries
  rw [List.map_map]
  induction es with
  | nil => rfl
  | cons e es ih =>
    rw [answersOf, ih]
    rfl

@[simp, grind =] theorem slugs_ofEntries (es : List (Value × Value)) :
    (ofEntries es).map (·.slug) = es.map (·.1) := by
  unfold ofEntries
  rw [List.map_map]
  rfl

mutual

/-- What comes back for a value in an object: the value, where objects without entries have become
empty lists. -/
def returned : Value → Value
  | .map es => if es.isEmpty then .list [] else .map (returnedEntries es)
  | v => v
termination_by structural v => v

def returnedEntries : List (Value × Value) → List (Value × Value)
  | [] => []
  | (k, v) :: es => (k, returned v) :: returnedEntries es
termination_by structural es => es

end

mutual

theorem exported_answerValue (v : Value) (hn : Named v) (hu : Unanswered v) :
    exported (answerValue v) = .ok (returned v) := by
  match v with
  | .map [] => rfl
  | .map (e :: es) =>
    have hgroup : Answer.group? (answerValue (.map (e :: es))) = some (ofEntries (e :: es)) := by
      rw [Answer.group?_eq_some_iff, answerValue, answersOf_eq]
    obtain ⟨hkeys, hvalues⟩ := named_map_iff.1 hn
    have hgives := gives_ofEntries (e :: es) hvalues (unanswered_map_iff.1 hu)
    rw [← slugs_ofEntries] at hkeys
    rw [exported, objectValue_group hgroup nofun, toObject_of_gives hgives hkeys]
    rfl
  | .list xs =>
    apply objectValue_self
    intro inner hinner
    obtain rfl := Value.list.inj (Answer.group?_eq_some_iff.1 hinner)
    exact List.map_eq_nil_iff.1 (hu _ .here (Answer.all_isAnswer inner))
  | .null | .bool _ | .int _ | .float _ | .text _ | .bytes _ | .date _ | .moment _ | .set _
  | .tuple _ | .answer .. | .upload .. => rfl
termination_by structural v

theorem gives_ofEntries (es : List (Value × Value)) (hn : ∀ e ∈ es, Named e.2)
    (hu : ∀ e ∈ es, Unanswered e.2) : List.Forall₂ Gives (ofEntries es) (returnedEntries es) := by
  match es with
  | [] => exact .nil
  | (k, v) :: es =>
    obtain ⟨hn, hnames⟩ := List.forall_mem_cons.1 hn
    obtain ⟨hu, hunanswered⟩ := List.forall_mem_cons.1 hu
    exact .cons ⟨rfl, exported_answerValue v hn hu⟩ (gives_ofEntries es hnames hunanswered)
termination_by structural es

end

mutual

theorem returned_eq_self_iff (v : Value) : returned v = v ↔ ¬ StandsIn (.map []) v := by
  match v with
  | .map [] => exact iff_of_false nofun fun h => h .here
  | .map (e :: es) =>
    have hentries := returnedEntries_eq_self_iff (e :: es)
    show Value.map (returnedEntries (e :: es)) = .map (e :: es) ↔ _
    rw [Value.map.injEq, hentries, standsIn_map_iff, not_or]
    simp
  | .null | .bool _ | .int _ | .float _ | .text _ | .bytes _ | .date _ | .moment _ | .set _
  | .list _ | .tuple _ | .answer .. | .upload .. =>
    refine iff_of_true rfl fun h => ?_
    rw [standsIn_iff_of_not_isMap rfl] at h
    cases h
termination_by structural v

theorem returnedEntries_eq_self_iff (es : List (Value × Value)) :
    returnedEntries es = es ↔ ∀ e ∈ es, ¬ StandsIn (.map []) e.2 := by
  match es with
  | [] => exact iff_of_true rfl nofun
  | (k, v) :: es =>
    have hv := returned_eq_self_iff v
    have hes := returnedEntries_eq_self_iff es
    rw [returnedEntries, List.cons.injEq, Prod.mk.injEq, List.forall_mem_cons, hv, hes]
    exact and_congr_left' (and_iff_right rfl)
termination_by structural es

end

/-- An object with names for keys at every depth, where no value is a list of answers, comes back
from its answers with every key in its place. It is the same object unless an object without
entries stands in one of its values. -/
theorem toObject_ofObject {es : List (Value × Value)} (hn : Named (.map es))
    (hu : Unanswered (.map es)) :
    ∃ answers, ofObject (.map es) = .ok answers ∧
      toObject (.tuple []) answers = .ok (.map (returnedEntries es)) ∧
      (returnedEntries es = es ↔ ∀ e ∈ es, ¬ StandsIn (.map []) e.2) := by
  obtain ⟨hkeys, hvalues⟩ := named_map_iff.1 hn
  have hgives := gives_ofEntries es hvalues (unanswered_map_iff.1 hu)
  rw [← slugs_ofEntries] at hkeys
  exact ⟨ofEntries es, rfl, toObject_of_gives hgives hkeys, returnedEntries_eq_self_iff es⟩

def guestEntries : List (Value × Value) :=
  [(.text "name", .text "Ada"),
    (.text "address", .map [(.text "city", .text "London"), (.text "tags", .list [])]),
    (.text "stay", .map [])]

theorem toObject_ofObject_guest :
    Named (.map guestEntries) ∧ Unanswered (.map guestEntries) ∧
      ∃ answers, ofObject (.map guestEntries) = .ok answers ∧
        toObject (.tuple []) answers = .ok (.map (returnedEntries guestEntries)) ∧
        (returnedEntries guestEntries = guestEntries ↔
          ∀ e ∈ guestEntries, ¬ StandsIn (.map []) e.2) := by
  have hnamed : Named (.map guestEntries) := by
    have hguest := AreNames.of_texts ["name", "address", "stay"] (by decide)
    have hplace := AreNames.of_texts ["city", "tags"] (by decide)
    have hnone := AreNames.of_texts [] (by decide)
    simp only [guestEntries, named_map_iff, List.forall_mem_cons]
    exact ⟨hguest, named_of_not_isMap rfl,
      ⟨hplace, named_of_not_isMap rfl, named_of_not_isMap rfl, List.forall_mem_nil _⟩,
      ⟨hnone, List.forall_mem_nil _⟩, List.forall_mem_nil _⟩
  have hunanswered : Unanswered (.map guestEntries) := by
    simp only [guestEntries, unanswered_map_iff, List.forall_mem_cons]
    refine ⟨unanswered_of_not_isMap rfl nofun,
      ⟨unanswered_of_not_isMap rfl nofun, unanswered_of_not_isMap rfl ?_, List.forall_mem_nil _⟩,
      List.forall_mem_nil _, List.forall_mem_nil _⟩
    exact fun xs heq _ => (Value.list.inj heq).symm
  exact ⟨hnamed, hunanswered, toObject_ofObject hnamed hunanswered⟩

/-- An object without entries for a slug does not come back. -/
theorem toObject_ofObject_hollow :
    Named (.map [(.text "guest", .map [])]) ∧ Unanswered (.map [(.text "guest", .map [])]) ∧
      ∃ answers back, ofObject (.map [(.text "guest", .map [])]) = .ok answers ∧
        toObject (.tuple []) answers = .ok back ∧
        back.equal (.map [(.text "guest", .map [])]) = false := by
  have hguest := AreNames.of_texts ["guest"] (by decide)
  have hnone := AreNames.of_texts [] (by decide)
  have hback : toObject (.tuple []) [⟨.text "guest", .list []⟩] =
      .ok (.map [(.text "guest", .list [])]) := by rfl
  simp only [named_map_iff, unanswered_map_iff, List.forall_mem_cons]
  exact ⟨⟨hguest, ⟨hnone, List.forall_mem_nil _⟩, List.forall_mem_nil _⟩,
    ⟨List.forall_mem_nil _, List.forall_mem_nil _⟩, _, _, rfl, hback, by decide⟩

/-- Answers whose slugs at every depth are names, and whose values are groups of such answers or
neither objects nor lists of answers. -/
inductive IsClean : List Answer → Prop
  | intro {answers : List Answer} (names : AreNames (answers.map (·.slug)))
      (flat : ∀ a ∈ answers, a.value.isMap = false)
      (below : ∀ a ∈ answers, ∀ inner, Answer.group? a.value = some inner → IsClean inner) :
      IsClean answers

end Submission

inductive Answer.Layer : List Answer → List Answer → Prop
  | top (answers : List Answer) : Layer answers answers
  | inside {answers inner level : List Answer} {a : Answer} (ha : a ∈ answers)
      (hv : Answer.group? a.value = some inner) (h : Layer inner level) : Layer answers level

namespace Submission
open Value

/-- An object is produced from answers: it is the object of one of their levels. -/
def Produced (excluded : Value) (answers : List Answer) (fs : List (Value × Value)) : Prop :=
  ∃ level, Answer.Layer answers level ∧ toObject excluded level = .ok (.map fs)

theorem group_or_plain (v : Value) :
    (∃ inner, Answer.group? v = some inner ∧ inner ≠ []) ∨
      ∀ excluded, objectValue excluded v = .ok v := by
  by_cases hplain : ∀ inner, Answer.group? v = some inner → inner = []
  · exact .inr (objectValue_self hplain)
  · simp only [Classical.not_forall, exists_prop] at hplain
    exact .inl hplain

/-- Where the value of every answer is read back from its export, the answers are read back from the
entries that they give. -/
theorem exists_gives {answers : List Answer}
    (h : ∀ a ∈ answers, ∃ w, exported a.value = .ok w ∧ answerValue w = a.value) :
    ∃ es, List.Forall₂ Gives answers es ∧ ofEntries es = answers := by
  induction answers with
  | nil => exact ⟨[], .nil, rfl⟩
  | cons a answers ih =>
    obtain ⟨⟨w, hw, hback⟩, h⟩ := List.forall_mem_cons.1 h
    obtain ⟨es, hgives, hes⟩ := ih h
    refine ⟨(a.slug, w) :: es, .cons ⟨rfl, hw⟩ hgives, ?_⟩
    show (⟨a.slug, answerValue w⟩ : Answer) :: ofEntries es = _
    rw [hback, hes]

theorem answerValue_of_not_isMap {v : Value} (h : v.isMap = false) : answerValue v = v := by
  cases v with
  | map es => cases h
  | _ => rfl

theorem IsClean.gives {answers : List Answer} (h : IsClean answers) :
    ∃ es, List.Forall₂ Gives answers es ∧ ofEntries es = answers := by
  induction h with
  | @intro answers names flat below ih =>
    refine exists_gives fun a ha => ?_
    rcases group_or_plain a.value with ⟨inner, hinner, hne⟩ | hplain
    · obtain ⟨es, hgives, hes⟩ := ih a ha inner hinner
      obtain ⟨hnames, -, -⟩ := below a ha inner hinner
      refine ⟨.map es, ?_, ?_⟩
      · rw [exported, objectValue_group hinner hne]
        exact toObject_of_gives hgives hnames
      · rw [answerValue, answersOf_eq, hes, Answer.group?_eq_some_iff.1 hinner]
    · exact ⟨a.value, hplain _, answerValue_of_not_isMap (flat a ha)⟩

theorem exists_group?_of_mem_slugs {v s : Value} (hs : s ∈ Answer.slugsOfValue v) :
    ∃ inner, Answer.group? v = some inner ∧ s ∈ Answer.slugs inner := by
  cases v with
  | list xs =>
    rw [Answer.slugsOfValue] at hs
    split at hs
    · rename_i hall
      obtain ⟨inner, rfl⟩ := exists_group? hall
      rw [Answer.slugsOfAll_map] at hs
      exact ⟨inner, Answer.group?_eq_some_iff.2 rfl, hs⟩
    · cases hs
  | _ => cases hs

theorem IsClean.slugs {answers : List Answer} (h : IsClean answers) :
    ∀ s ∈ Answer.slugs answers, s.IsText := by
  induction h with
  | @intro answers names flat below ih =>
    intro s hs
    obtain ⟨a, ha, hs⟩ := List.mem_flatMap.1 hs
    rcases List.mem_cons.1 hs with rfl | hs
    · obtain ⟨t, ht, -⟩ := names.named a.slug (List.mem_map.2 ⟨a, ha, rfl⟩)
      exact ⟨t, ht⟩
    · obtain ⟨inner, hinner, hs⟩ := exists_group?_of_mem_slugs hs
      exact ih a ha inner hinner s hs

section
variable {excluded : Value} {hidden : List Value} (hexcluded : excluded.elements? = some hidden)
include hexcluded

theorem entryOf_hides {x k w : Value} (h : entryOf excluded x = .ok (some (k, w))) :
    ∀ s ∈ hidden, k.equal s = false := by
  cases x with
  | answer slug value =>
    rw [entryOf] at h
    split at h
    · cases h
    · obtain ⟨among, hamong, h⟩ := bind_eq_ok.1 h
      rw [isIn_of_elements? hexcluded] at hamong
      obtain rfl := Except.ok.inj hamong
      split at h
      · cases h
      · rename_i hother
        obtain ⟨w', _, h⟩ := bind_eq_ok.1 h
        obtain ⟨k', hkey, hentry⟩ := bind_eq_ok.1 h
        obtain rfl := Validation.eq_of_asKey hkey
        obtain ⟨rfl, rfl⟩ := Prod.mk.inj (Option.some.inj (Except.ok.inj hentry))
        rw [List.any_eq_true, not_exists] at hother
        exact fun s hs => Bool.eq_false_iff.2 fun heq => hother s ⟨hs, heq⟩
  | _ => cases h

theorem entriesOf_hides {xs : List Value} {before es : List (Value × Value)}
    (hbefore : ∀ k ∈ before.map (·.1), ∀ s ∈ hidden, k.equal s = false)
    (h : entriesOf excluded before xs = .ok es) :
    ∀ k ∈ es.map (·.1), ∀ s ∈ hidden, k.equal s = false := by
  induction xs generalizing before with
  | nil =>
    obtain rfl := Except.ok.inj h
    exact hbefore
  | cons x xs ih =>
    rw [entriesOf] at h
    obtain ⟨entry, hentry, h⟩ := bind_eq_ok.1 h
    cases entry with
    | none => exact ih hbefore h
    | some e =>
      obtain ⟨k, w⟩ := e
      refine ih (fun k' hk' => ?_) h
      rcases mem_keys_setEntry hk' with rfl | hk'
      · exact entryOf_hides hexcluded hentry
      · exact hbefore k' hk'

theorem IsClean.exists_of_mem {answers : List Answer} (h : IsClean answers)
    {es : List (Value × Value)} (hes : toObject excluded answers = .ok (.map es))
    {e : Value × Value} (he : e ∈ es) :
    ∃ a ∈ answers, objectValue excluded a.value = .ok e.2 := by
  have hslugs : ∀ a ∈ answers, a.slug.IsText :=
    fun a ha => h.slugs _ (Answer.slug_mem_slugs ha)
  have hnodup : (([] : List (Value × Value)).map (·.1)).Nodup := List.nodup_nil
  obtain ⟨es', hentries, hobject⟩ := exists_toObject hexcluded h.slugs
  obtain rfl := Value.map.inj (Except.ok.inj (hobject.symm.trans hes))
  obtain ⟨a, ha, -, -, hvalue⟩ | ⟨-, hmem⟩ :=
    (mem_entriesOf_iff hexcluded hslugs hnodup hentries e.1 e.2).1 he
  · exact ⟨a, ha.mem, hvalue⟩
  · cases hmem

theorem IsClean.produced {answers : List Answer} (h : IsClean answers)
    {es fs : List (Value × Value)} (hes : toObject excluded answers = .ok (.map es))
    (hfs : StandsIn (.map fs) (.map es)) :
    Produced excluded answers fs := by
  induction h generalizing es with
  | @intro answers names flat below ih =>
    have hclean : IsClean answers := .intro names flat below
    rcases standsIn_map_iff.1 hfs with heq | ⟨e, he, hfs⟩
    · obtain rfl := Value.map.inj heq
      exact ⟨answers, .top answers, hes⟩
    · obtain ⟨a, ha, hvalue⟩ := hclean.exists_of_mem hexcluded hes he
      rcases group_or_plain a.value with ⟨inner, hinner, hne⟩ | hplain
      · obtain ⟨es', -, hobject⟩ := exists_toObject hexcluded (below a ha inner hinner).slugs
        rw [objectValue_group hinner hne, hobject] at hvalue
        rw [← Except.ok.inj hvalue] at hfs
        obtain ⟨level, hlevel, hfs⟩ := ih a ha inner hinner hobject hfs
        exact ⟨level, .inside ha hinner hlevel, hfs⟩
      -- a value that is exported as it is holds no object
      · rw [hplain] at hvalue
        have hflat := flat a ha
        rw [Except.ok.inj hvalue] at hflat
        rw [standsIn_iff_of_not_isMap hflat] at hfs
        rw [← hfs] at hflat
        cases hflat

end

/-- Clean answers come back from their object as they were. With excluded slugs they have an object
too, in which every object is produced from one of their levels; and no object that is produced has
an excluded slug for a key, be the answers clean or not. -/
theorem ofObject_toObject (answers : List Answer) :
    (IsClean answers →
      ∃ es, toObject (.tuple []) answers = .ok (.map es) ∧ ofObject (.map es) = .ok answers) ∧
    ∀ excluded hidden, excluded.elements? = some hidden →
      (IsClean answers → ∃ es, toObject excluded answers = .ok (.map es) ∧
        ∀ fs, StandsIn (.map fs) (.map es) → Produced excluded answers fs) ∧
      ∀ fs, Produced excluded answers fs → ∀ k ∈ fs.map (·.1), ∀ s ∈ hidden, k.equal s = false := by
  constructor
  · intro hclean
    obtain ⟨es, hgives, hes⟩ := hclean.gives
    obtain ⟨names, -, -⟩ := hclean
    exact ⟨es, toObject_of_gives hgives names, congrArg Except.ok hes⟩
  · intro excluded hidden hexcluded
    constructor
    · intro hclean
      obtain ⟨es, -, hes⟩ := exists_toObject hexcluded hclean.slugs
      exact ⟨es, hes, fun fs hfs => hclean.produced hexcluded hes hfs⟩
    · intro fs ⟨level, _, hfs⟩
      obtain ⟨es, hes, h⟩ := bind_eq_ok.1 hfs
      obtain rfl := Value.map.inj (Except.ok.inj h)
      exact entriesOf_hides hexcluded (List.forall_mem_nil _) hes

def guestAnswers : List Answer :=
  [⟨.text "name", .text "Ada"⟩, ⟨.text "tags", .list []⟩,
    ⟨.text "address", .list [.answer (.text "city") (.text "London"),
      .answer (.text "token") (.int 1)]⟩,
    ⟨.text "token", .int 2⟩]

theorem ofObject_toObject_guest :
    (∃ es, toObject (.tuple []) guestAnswers = .ok (.map es) ∧
      ofObject (.map es) = .ok guestAnswers) ∧
    ∃ es, toObject (.list [.text "token"]) guestAnswers = .ok (.map es) ∧
      ∀ fs, StandsIn (.map fs) (.map es) →
        ∀ k ∈ fs.map (·.1), ∀ s ∈ [Value.text "token"], k.equal s = false := by
  have hplain : ∀ {v : Value}, v.isList = false → ∀ inner, Answer.group? v = some inner →
      IsClean inner := by
    intro v hv inner hinner
    rw [Answer.group?_eq_some_iff.1 hinner] at hv
    cases hv
  have hempty : IsClean [] := ⟨.of_texts [] (by decide), nofun, nofun⟩
  have hplace : IsClean [⟨.text "city", .text "London"⟩, ⟨.text "token", .int 1⟩] := by
    refine ⟨.of_texts ["city", "token"] (by decide), ?_, ?_⟩ <;> simp only [List.forall_mem_cons]
    · exact ⟨rfl, rfl, List.forall_mem_nil _⟩
    · exact ⟨hplain rfl, hplain rfl, List.forall_mem_nil _⟩
  have hclean : IsClean guestAnswers := by
    refine ⟨.of_texts ["name", "tags", "address", "token"] (by decide), ?_, ?_⟩ <;>
      simp only [guestAnswers, List.forall_mem_cons]
    · exact ⟨rfl, rfl, rfl, rfl, List.forall_mem_nil _⟩
    · refine ⟨hplain rfl, ?_, ?_, hplain rfl, List.forall_mem_nil _⟩
      · intro inner hinner
        obtain rfl := Option.some.inj hinner
        exact hempty
      · intro inner hinner
        obtain rfl := Option.some.inj hinner
        exact hplace
  obtain ⟨hback, hexcluded⟩ := ofObject_toObject guestAnswers
  obtain ⟨hobject, hhides⟩ := hexcluded (.list [.text "token"]) [.text "token"] rfl
  obtain ⟨es, hes, hproduced⟩ := hobject hclean
  exact ⟨hback hclean, es, hes, fun fs hfs => hhides fs (hproduced fs hfs)⟩

end Submission

end Intake
