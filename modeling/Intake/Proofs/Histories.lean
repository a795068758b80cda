import Intake.Proofs.Documents
import Intake.Proofs.Keys

/-! Histories of bags. A bag that is set, cut and read again in any order stays an ordered map: no
kind comes twice, rules are set and removed in their places, and each kind has the rule that it was
last set to. -/

namespace Intake

def Rule.again (key : Value) (rule : Rule) : Rule :=
  Rule.read (RuleKind.ofKey? key) rule.toValue

/-- A rule is one that a value is read to for a key. -/
def Rule.IsReadFor (key : Value) (rule : Rule) : Prop :=
  ∃ raw, rule = Rule.read (RuleKind.ofKey? key) raw

namespace Rule

theorem IsReadFor.again_eq {key : Value} {rule : Rule} (h : rule.IsReadFor key) :
    Rule.again key rule = rule := by
  obtain ⟨raw, rfl⟩ := h
  exact read_toValue _ raw

theorem isReadFor_again (key : Value) (rule : Rule) : (Rule.again key rule).IsReadFor key :=
  ⟨_, rfl⟩

theorem isReadFor_of_equal {k k' : Value} (h : k.equal k' = true) {rule : Rule} :
    rule.IsReadFor k ↔ rule.IsReadFor k' := by
  unfold IsReadFor
  rw [RuleKind.ofKey?_of_equal h]

end Rule

namespace RuleBag

def IsDistinct (b : RuleBag) : Prop := b.kinds.Pairwise fun k k' => k'.equal k = false

/-- What a kind is named by: itself if it is known, or else any key that is equal to itself. -/
inductive KindName
  | known (kind : RuleKind)
  | key (key : Value) (isKey : key.IsKey) (same : key.equal key = true)

namespace KindName

def toKey : KindName → Value
  | known kind => kind.key
  | key k _ _ => k

theorem isKey (name : KindName) : name.toKey.IsKey := by
  cases name with
  | known kind => exact kind.isKey
  | key _ isKey _ => exact isKey

theorem same (name : KindName) : name.toKey.equal name.toKey = true := by
  cases name with
  | known kind => exact Value.text_equal_iff.2 rfl
  | key _ _ same => exact same

end KindName

inductive Step
  | set (name : KindName) (rule : Rule)
  | remove (name : KindName)
  | reread

namespace Step

def apply (b : RuleBag) : Step → RuleBag
  | set name rule => b.insert name.toKey rule
  | remove name => b.erase name.toKey
  | reread => ofEntries b.toEntries

def onRule (key : Value) (r : Option Rule) : Step → Option Rule
  | set name rule => if key.equal name.toKey then some rule else r
  | remove name => if key.equal name.toKey then none else r
  | reread => r.map (Rule.again key)

def Concerns (name : KindName) : Step → Prop
  | set other _ | remove other => name.toKey.equal other.toKey = true
  | reread => False

def isReread : Step → Bool
  | reread => true
  | set _ _ | remove _ => false

def IsRead : Step → Prop
  | set name rule => rule.IsReadFor name.toKey
  | remove _ | reread => True

end Step

def runSteps (steps : List Step) (b : RuleBag) : RuleBag := steps.foldl Step.apply b

/-! ### One step -/

@[simp] theorem get?_map_again (rules : List (Value × Rule)) (key : Value) :
    get? ⟨rules.map fun e => (e.1, Rule.again e.1 e.2)⟩ key =
      (get? ⟨rules⟩ key).map (Rule.again key) := by
  induction rules with
  | nil => rfl
  | cons e rules ih =>
    rw [List.map_cons, get?_cons, get?_cons, ih]
    by_cases he : key.equal e.1 = true
    · have hkind : RuleKind.ofKey? e.1 = RuleKind.ofKey? key :=
        (RuleKind.ofKey?_of_equal he).symm
      rw [if_pos he, if_pos he, Option.map_some]
      unfold Rule.again
      rw [hkind]
    · rw [if_neg he, if_neg he]

section
variable {b : RuleBag}

theorem IsDistinct.erase (h : b.IsDistinct) (key : Value) : (b.erase key).IsDistinct :=
  h.sublist (List.filter_sublist.map _)

theorem IsDistinct.apply (h : b.IsDistinct) (s : Step) : (s.apply b).IsDistinct := by
  cases s with
  | set name rule => exact distinct_insert h name.toKey rule
  | remove name => exact h.erase name.toKey
  | reread => exact (isRead_ofEntries b.toEntries).distinct

/-- A step does to the rule under a key what it does to that rule alone. -/
theorem IsDistinct.get?_apply (h : b.IsDistinct) (s : Step) {key : Value} (hkey : key.IsKey) :
    (s.apply b).get? key = s.onRule key (b.get? key) := by
  cases s with
  | set name rule => exact get?_insert hkey name.isKey b rule
  | remove name => exact get?_erase hkey name.isKey b
  | reread =>
    unfold Step.apply
    rw [ofEntries_toEntries_of_distinct h]
    exact get?_map_again b.rules key

theorem IsRead.erase (h : b.IsRead) (key : Value) : (b.erase key).IsRead :=
  ⟨IsDistinct.erase h.distinct key, fun e he => h.rules e (List.mem_filter.1 he).1⟩

theorem IsRead.apply (h : b.IsRead) {s : Step} (hs : s.IsRead) : (s.apply b).IsRead := by
  cases s with
  | set name rule =>
    obtain ⟨raw, rfl⟩ := hs
    exact h.insert name.toKey raw
  | remove name => exact h.erase name.toKey
  | reread => exact isRead_ofEntries b.toEntries

theorem IsRead.isReadFor_of_get? (h : b.IsRead) {key : Value} {rule : Rule}
    (hrule : b.get? key = some rule) : rule.IsReadFor key := by
  obtain ⟨e, he, rfl⟩ := Option.map_eq_some_iff.1 hrule
  have hequal := List.find?_some he
  exact (Rule.isReadFor_of_equal hequal).2 (h.rules e (List.mem_of_find?_eq_some he))

end

/-! ### Ordered maps -/

/-- An ordered map: kinds are distinct, what is declared is found by its kind, and set and removed
in its place, and what is not declared is set at the end and cannot be removed. -/
structure IsOrderedMap (b : RuleBag) : Prop where
  distinct : b.IsDistinct
  kinds_eq : b.kinds = b.rules.map (·.1)
  size_eq : b.size = b.kinds.length
  contains_iff : ∀ name : KindName,
    b.contains name.toKey = true ↔ ∃ k ∈ b.kinds, name.toKey.equal k = true
  declared : ∀ name : KindName, b.contains name.toKey = true →
    ∃ before e after, b.rules = before ++ e :: after ∧ name.toKey.equal e.1 = true ∧
      b.get? name.toKey = some e.2 ∧
      (∀ rule, (b.insert name.toKey rule).rules = before ++ (e.1, rule) :: after) ∧
      (b.erase name.toKey).rules = before ++ after
  undeclared : ∀ name : KindName, b.contains name.toKey = false →
    b.get? name.toKey = none ∧
      (∀ rule, (b.insert name.toKey rule).rules = b.rules ++ [(name.toKey, rule)]) ∧
      b.erase name.toKey = b
  reread : ofValue b.toValue = .ok (Step.reread.apply b) ∧ (Step.reread.apply b).kinds = b.kinds

section
variable {b : RuleBag} {before after : List (Value × Rule)} {e : Value × Rule} {key : Value}

theorem IsDistinct.not_equal (h : b.IsDistinct) (hrules : b.rules = before ++ e :: after)
    (hkey : key.IsKey) (he : key.equal e.1 = true) :
    ∀ e' ∈ before ++ after, key.equal e'.1 = false := by
  unfold IsDistinct kinds at h
  rw [hrules, List.map_append, List.map_cons, List.pairwise_append, List.pairwise_cons] at h
  obtain ⟨_, ⟨hafter, _⟩, hbefore⟩ := h
  have hcongr : ∀ v, key.equal v = e.1.equal v := hkey.equal_congr he
  have hback : e.1.IsKey := hkey.of_equal he
  intro e' he'
  rw [hcongr]
  rcases List.mem_append.1 he' with hmem | hmem
  · exact hbefore e'.1 (List.mem_map_of_mem hmem) e.1 List.mem_cons_self
  · rw [Bool.eq_false_iff]
    intro hequal
    have hlater := hafter e'.1 (List.mem_map_of_mem hmem)
    rw [hback.equal_symm hequal] at hlater
    cases hlater

theorem filter_of_not_equal {es : List (Value × Rule)} (h : ∀ e ∈ es, key.equal e.1 = false) :
    (es.filter fun e => !key.equal e.1) = es := by
  rw [List.filter_eq_self]
  intro e he
  rw [h e he]
  rfl

theorem get?_of_declared (hrules : b.rules = before ++ e :: after) (he : key.equal e.1 = true)
    (hbefore : ∀ e' ∈ before, key.equal e'.1 = false) : b.get? key = some e.2 := by
  obtain ⟨rules⟩ := b
  obtain rfl := hrules
  induction before with
  | nil => exact (get?_cons e after key).trans (if_pos he)
  | cons e' before ih =>
    rw [List.forall_mem_cons, ← Bool.not_eq_true] at hbefore
    rw [List.cons_append, get?_cons, if_neg hbefore.1]
    exact ih hbefore.2

theorem insert_of_declared (hrules : b.rules = before ++ e :: after) (he : key.equal e.1 = true)
    (hbefore : ∀ e' ∈ before, key.equal e'.1 = false) (rule : Rule) :
    (b.insert key rule).rules = before ++ (e.1, rule) :: after := by
  obtain ⟨rules⟩ := b
  obtain rfl := hrules
  induction before with
  | nil => rw [List.nil_append, insert_cons, if_pos he, List.nil_append]
  | cons e' before ih =>
    rw [List.forall_mem_cons, ← Bool.not_eq_true] at hbefore
    rw [List.cons_append, insert_cons, if_neg hbefore.1, List.cons_append, ih hbefore.2]

theorem erase_of_declared (hrules : b.rules = before ++ e :: after) (he : key.equal e.1 = true)
    (hothers : ∀ e' ∈ before ++ after, key.equal e'.1 = false) :
    (b.erase key).rules = before ++ after := by
  rw [List.forall_mem_append] at hothers
  have hafter : ((e :: after).filter fun e' => !key.equal e'.1) = after := by
    rw [List.filter_cons, he]
    exact filter_of_not_equal hothers.2
  unfold erase
  dsimp only
  rw [hrules, List.filter_append, filter_of_not_equal hothers.1, hafter]

end

theorem IsDistinct.isOrderedMap {b : RuleBag} (h : b.IsDistinct) : b.IsOrderedMap where
  distinct := h
  kinds_eq := rfl
  size_eq := (List.length_map _).symm
  contains_iff _ := contains_iff
  declared name hname := by
    obtain ⟨k, hk, hequal⟩ := contains_iff.1 hname
    obtain ⟨e, he, rfl⟩ := List.mem_map.1 hk
    obtain ⟨before, after, hrules⟩ := List.append_of_mem he
    have hothers := h.not_equal hrules name.isKey hequal
    have hbefore := (List.forall_mem_append.1 hothers).1
    exact ⟨before, e, after, hrules, hequal, get?_of_declared hrules hequal hbefore,
      insert_of_declared hrules hequal hbefore, erase_of_declared hrules hequal hothers⟩
  undeclared name hname := by
    have hnone : ∀ k ∈ b.kinds, name.toKey.equal k = false := by
      intro k hk
      rw [Bool.eq_false_iff]
      intro hequal
      rw [contains_iff.2 ⟨k, hk, hequal⟩] at hname
      cases hname
    refine ⟨Option.not_isSome_iff_eq_none.1 (Bool.eq_false_iff.1 hname), fun rule => ?_, ?_⟩
    · rw [insert_of_not_equal hnone]
    · exact congrArg RuleBag.mk (filter_of_not_equal fun e he => hnone e.1 (List.mem_map_of_mem he))
  reread := by
    refine ⟨rfl, ?_⟩
    unfold Step.apply
    rw [ofEntries_toEntries_of_distinct h]
    unfold kinds
    rw [List.map_map]
    rfl

/-! ### Histories -/

section
variable {b : RuleBag} {steps : List Step}

theorem isDistinct_runSteps (h : b.IsDistinct) (steps : List Step) :
    (runSteps steps b).IsDistinct := by
  induction steps generalizing b with
  | nil => exact h
  | cons s steps ih => exact ih (h.apply s)

theorem isRead_runSteps (h : b.IsRead) (hsteps : ∀ s ∈ steps, s.IsRead) :
    (runSteps steps b).IsRead := by
  induction steps generalizing b with
  | nil => exact h
  | cons s steps ih =>
    rw [List.forall_mem_cons] at hsteps
    exact ih (h.apply hsteps.1) hsteps.2

theorem IsDistinct.get?_runSteps (h : b.IsDistinct) (steps : List Step) {key : Value}
    (hkey : key.IsKey) :
    (runSteps steps b).get? key = steps.foldl (Step.onRule key) (b.get? key) := by
  induction steps generalizing b with
  | nil => rfl
  | cons s steps ih =>
    rw [List.foldl_cons, ← h.get?_apply s hkey]
    exact ih (h.apply s)

end

theorem foldl_onRule {name : KindName} {steps : List Step} (h : ∀ s ∈ steps, ¬ s.Concerns name)
    (r : Option Rule) :
    steps.foldl (Step.onRule name.toKey) r =
      if steps.any Step.isReread then r.map (Rule.again name.toKey) else r := by
  induction steps generalizing r with
  | nil => rfl
  | cons s steps ih =>
    rw [List.forall_mem_cons] at h
    rw [List.foldl_cons, ih h.2]
    cases s with
    | set other rule =>
      have hother : Step.onRule name.toKey r (.set other rule) = r := if_neg h.1
      rw [hother]
      rfl
    | remove other =>
      have hother : Step.onRule name.toKey r (.remove other) = r := if_neg h.1
      rw [hother]
      rfl
    | reread =>
      -- what has been read again is not changed by reading it once more
      have hagain : (r.map (Rule.again name.toKey)).map (Rule.again name.toKey) =
          r.map (Rule.again name.toKey) := by
        rw [Option.map_map]
        exact Option.map_congr fun rule _ => (Rule.isReadFor_again name.toKey rule).again_eq
      unfold Step.onRule
      rw [hagain, ite_self]
      rfl

structure IsLast (name : KindName) (steps : List Step) (s : Step) (after : List Step) : Prop where
  splits : ∃ before, steps = before ++ s :: after
  concerns : s.Concerns name
  alone : ∀ t ∈ after, ¬ t.Concerns name

/-- Unless no step concerns a kind, one is the last. -/
theorem exists_isLast (name : KindName) (steps : List Step) :
    (∀ s ∈ steps, ¬ s.Concerns name) ∨ ∃ s after, IsLast name steps s after := by
  induction steps with
  | nil => exact .inl (List.forall_mem_nil _)
  | cons s steps ih =>
    rcases ih with hnone | ⟨t, after, hlast⟩
    · by_cases hs : s.Concerns name
      · exact .inr ⟨s, steps, ⟨[], rfl⟩, hs, hnone⟩
      · exact .inl (List.forall_mem_cons.2 ⟨hs, hnone⟩)
    · obtain ⟨before, rfl⟩ := hlast.splits
      exact .inr ⟨t, after, ⟨s :: before, rfl⟩, hlast.concerns, hlast.alone⟩

theorem IsLast.get?_runSteps {b : RuleBag} {name : KindName} {steps after : List Step} {s : Step}
    (h : IsLast name steps s after) (hb : b.IsDistinct) :
    ∃ r, (runSteps steps b).get? name.toKey =
      if after.any Step.isReread then (Step.onRule name.toKey r s).map (Rule.again name.toKey)
      else Step.onRule name.toKey r s := by
  obtain ⟨before, rfl⟩ := h.splits
  rw [hb.get?_runSteps _ name.isKey, List.foldl_append, List.foldl_cons, foldl_onRule h.alone]
  exact ⟨_, rfl⟩

/-- What a bag has for a kind after some steps: what it began with, if none concerns the kind, what
it was last set to, but read again if that was no rule of the kind and the bag has since been read,
and nothing where the kind was removed last. -/
structure Remembers (start : RuleBag) (steps : List Step) (name : KindName) : Prop where
  cases : (∀ s ∈ steps, ¬ s.Concerns name) ∨ ∃ s after, IsLast name steps s after
  untouched : (∀ s ∈ steps, ¬ s.Concerns name) →
    (runSteps steps start).get? name.toKey = start.get? name.toKey
  set : ∀ other rule after, IsLast name steps (.set other rule) after →
    after.any Step.isReread = false ∨ rule.IsReadFor name.toKey →
    (runSteps steps start).get? name.toKey = some rule
  set_reread : ∀ other rule after, IsLast name steps (.set other rule) after →
    after.any Step.isReread = true →
    (runSteps steps start).get? name.toKey = some (Rule.again name.toKey rule)
  removed : ∀ other after, IsLast name steps (.remove other) after →
    (runSteps steps start).get? name.toKey = none

theorem IsRead.remembers {start : RuleBag} (h : start.IsRead) (steps : List Step)
    (name : KindName) : Remembers start steps name where
  cases := exists_isLast name steps
  untouched hsteps := by
    rw [IsDistinct.get?_runSteps h.distinct steps name.isKey, foldl_onRule hsteps]
    cases hrule : start.get? name.toKey with
    | none => exact ite_self none
    | some rule =>
      rw [Option.map_some, (h.isReadFor_of_get? hrule).again_eq, ite_self]
  set other rule after hlast hrule := by
    obtain ⟨r, hget⟩ := hlast.get?_runSteps h.distinct
    have hset : Step.onRule name.toKey r (.set other rule) = some rule := if_pos hlast.concerns
    rw [hget, hset, Option.map_some]
    rcases hrule with hnone | hread
    · rw [hnone]
      rfl
    · rw [hread.again_eq, ite_self]
  set_reread other rule after hlast hreread := by
    obtain ⟨r, hget⟩ := hlast.get?_runSteps h.distinct
    have hset : Step.onRule name.toKey r (.set other rule) = some rule := if_pos hlast.concerns
    rw [hget, hset, if_pos hreread, Option.map_some]
  removed other after hlast := by
    obtain ⟨r, hget⟩ := hlast.get?_runSteps h.distinct
    have hremoved : Step.onRule name.toKey r (.remove other) = none := if_pos hlast.concerns
    rw [hget, hremoved]
    exact ite_self none

theorem isRead_of_ofValue {data : Value} {b : RuleBag} (h : ofValue data = .ok b) : b.IsRead := by
  cases data with
  | map entries =>
    obtain rfl := Except.ok.inj h
    exact isRead_ofEntries entries
  | _ => cases h

/-- From a bag that has been read, any steps lead to an ordered map that has for each kind what it
was last set to. If all rules that are set have been read, the bag is read again, in the same order,
from what it is written as. A known kind is the same as its name. -/
theorem runSteps_of_ofValue {data : Value} {start : RuleBag} (h : ofValue data = .ok start)
    (steps : List Step) :
    (runSteps steps start).IsOrderedMap ∧
      (∀ name, Remembers start steps name) ∧
      ((∀ s ∈ steps, s.IsRead) →
        ofValue (runSteps steps start).toValue = .ok (runSteps steps start)) ∧
      ∀ (kind : RuleKind) (v : Value),
        (KindName.known kind).toKey.equal v = true ↔ v = .text kind.name := by
  have hstart := isRead_of_ofValue h
  refine ⟨(isDistinct_runSteps hstart.distinct steps).isOrderedMap, hstart.remembers steps,
    fun hsteps => ?_, fun kind v => Value.text_equal_iff⟩
  exact congrArg Except.ok (isRead_runSteps hstart hsteps).ofEntries_toEntries

/-- A kind that is removed under its name and set again stands last. -/
theorem runSteps_of_ofValue_renewed :
    ∃ start, ofValue (.map [(.text "required", .bool false), (.text "email", .bool true)]) =
        .ok start ∧
      ∃ b, runSteps [.remove (.key (.text "required") rfl (by decide)),
        .set (.known .required) (.plain (.bool true)), .reread] start = b ∧
      b.get? (.text "required") = some (.plain (.bool true)) ∧ ofValue b.toValue = .ok b ∧
      b.kinds = [.text "email", .text "required"] := by
  have hstart : ofValue (.map [(.text "required", .bool false), (.text "email", .bool true)]) =
      .ok (ofEntries _) := rfl
  have hhistory := runSteps_of_ofValue hstart
  refine ⟨_, hstart, _, rfl, ?_, ?_, rfl⟩
  · refine ((hhistory _).2.1 (.known .required)).set _ _ [.reread] ⟨⟨[_], rfl⟩, ?_, ?_⟩
      (.inr ⟨.bool true, rfl⟩)
    · exact KindName.same _
    · exact List.forall_mem_singleton.2 id
  · refine (hhistory _).2.2.1 ?_
    exact List.forall_mem_cons.2 ⟨trivial, List.forall_mem_cons.2
      ⟨⟨.bool true, rfl⟩, List.forall_mem_singleton.2 trivial⟩⟩

end RuleBag

end Intake
