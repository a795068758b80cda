import Mathlib
import Intake.Proofs.Faults
import Intake.Proofs.Searches

/-! Addresses. The check of an email address divides a text at its at signs and points. The same
texts are those that a pattern matches from end to end, in which a label may be taken up by a
repeated group or by what follows the group, and both are the texts with one at sign, a name before
it and at least two labels after it. -/

namespace Intake

variable {names : Pattern.Names}

namespace Pattern

theorem mem_one_pow_iff {c : CharClass} {n : Nat} {xs : List Char} :
    xs ∈ (one c).language ^ n ↔ xs.length = n ∧ ∀ x ∈ xs, c.holds x = true := by
  induction n generalizing xs with
  | zero =>
    rw [pow_zero, Language.mem_one, List.length_eq_zero_iff]
    exact ⟨fun h => by simp [h], And.left⟩
  | succ n ih =>
    rw [pow_succ', Language.mem_mul]
    constructor
    · rintro ⟨_, ⟨x, hx, rfl⟩, ys, hys, rfl⟩
      obtain ⟨hlength, hall⟩ := ih.1 hys
      exact ⟨congrArg (· + 1) hlength, List.forall_mem_cons.2 ⟨hx, hall⟩⟩
    · cases xs with
      | nil => exact fun h => absurd h.1 (Nat.succ_ne_zero n).symm
      | cons x xs =>
        rintro ⟨hlength, hall⟩
        rw [List.forall_mem_cons] at hall
        exact ⟨[x], ⟨x, hall.1, rfl⟩, xs, ih.2 ⟨Nat.succ.inj hlength, hall.2⟩, rfl⟩

theorem mem_counted_class_iff {least : Nat} {greatest : Option Nat} {greed : Greed} {c : CharClass}
    {xs : List Char} : xs ∈ (repetition least greatest greed (.one c)).language ↔
      least ≤ xs.length ∧ (∀ m ∈ greatest, xs.length ≤ m) ∧ ∀ x ∈ xs, c.holds x = true := by
  constructor
  · rintro ⟨n, hleast, hgreatest, hxs⟩
    obtain ⟨rfl, hall⟩ := mem_one_pow_iff.1 hxs
    exact ⟨hleast, hgreatest, hall⟩
  · rintro ⟨hleast, hgreatest, hall⟩
    exact ⟨xs.length, hleast, hgreatest, mem_one_pow_iff.2 ⟨rfl, hall⟩⟩

theorem mem_repeated_class_iff {least : Nat} {greed : Greed} {c : CharClass} {xs : List Char} :
    xs ∈ (repetition least none greed (.one c)).language ↔
      least ≤ xs.length ∧ ∀ x ∈ xs, c.holds x = true := by
  have hnone : ∀ m ∈ (none : Option Nat), xs.length ≤ m := by simp
  rw [mem_counted_class_iff, and_iff_right hnone]

theorem isRegular_counted_class {least : Nat} {greatest : Option Nat} (c : CharClass)
    (h : ∀ m ∈ greatest, least ≤ m) : (repetition least greatest .greedy (.one c)).IsRegular := by
  refine ⟨trivial, ?_, h, by simp⟩
  rintro ⟨x, -, hx⟩
  cases hx

theorem lastLineEnd_isSome_iff (cs : List Char) (t : Place) :
    (run cs.toArray (.anchor .lastLineEnd)
      (fun t => if t.position == cs.length then some t else none) t).isSome = true ↔
        t.position = cs.length := by
  simp only [run, Anchor.holds, List.size_toArray]
  split_ifs <;> simp_all

@[simp]
theorem mem_empty_iff {xs : List Char} : xs ∈ empty.language ↔ xs = [] := Language.mem_one xs

theorem mem_seq_iff {a b : Pattern} {xs : List Char} :
    xs ∈ (seq a b).language ↔ ∃ ys ∈ a.language, ∃ zs ∈ b.language, ys ++ zs = xs :=
  Language.mem_mul

def optionally (p : Pattern) : Pattern := .repetition 0 (some 1) .greedy p

@[simp] theorem mem_optionally_iff {p : Pattern} {xs : List Char} :
    xs ∈ (optionally p).language ↔ xs = [] ∨ xs ∈ p.language := by
  constructor
  · rintro ⟨n, -, hn, hxs⟩
    obtain rfl | rfl := Nat.le_one_iff_eq_zero_or_eq_one.1 (hn 1 rfl)
    · exact .inl hxs
    · rw [pow_one] at hxs
      exact .inr hxs
  · rintro (rfl | hxs)
    · exact ⟨0, le_rfl, by simp, Language.nil_mem_one⟩
    · exact ⟨1, Nat.zero_le 1, by simp, by rwa [pow_one]⟩

theorem isRegular_optionally {p : Pattern} (hp : p.IsRegular) (hne : [] ∉ p.language) :
    (optionally p).IsRegular := ⟨hp, hne, by simp, by simp⟩

@[simp] theorem mem_alt_iff {a b : Pattern} {xs : List Char} :
    xs ∈ (alt a b).language ↔ xs ∈ a.language ∨ xs ∈ b.language := Language.mem_add _ _ _

end Pattern

namespace Email

def classOf (runs : List (Nat × Nat)) : CharClass :=
  ⟨false, runs.map fun r => .range r.1 r.2, false, false⟩

def letters : List (Nat × Nat) := [(97, 122), (65, 90)]

def labelCharacters : List (Nat × Nat) := letters ++ [(48, 57), (45, 45)]

def nameCharacters : List (Nat × Nat) :=
  letters ++ [(48, 57), (46, 46), (95, 95), (37, 37), (43, 43), (45, 45)]

theorem classOf_holds_iff {runs : List (Nat × Nat)} {c : Char} :
    (classOf runs).holds c = true ↔ ∃ r ∈ runs, r.1 ≤ c.toNat ∧ c.toNat ≤ r.2 := by
  simp [classOf, CharClass.holds, CharClass.holdsItem]

theorem isAlpha_iff_toNat {c : Char} :
    c.isAlpha = true ↔ 97 ≤ c.toNat ∧ c.toNat ≤ 122 ∨ 65 ≤ c.toNat ∧ c.toNat ≤ 90 := by
  have hcode : c.isAlpha = (decide (c.val ≥ 65 ∧ c.val ≤ 90) ||
      (decide (c.val ≥ 97) && decide (c.val ≤ 122))) := rfl
  rw [hcode]
  simp [UInt32.le_iff_toNat_le, or_comm]

theorem isAlphanum_iff_toNat {c : Char} :
    c.isAlphanum = true ↔ (97 ≤ c.toNat ∧ c.toNat ≤ 122 ∨ 65 ≤ c.toNat ∧ c.toNat ≤ 90) ∨
      48 ≤ c.toNat ∧ c.toNat ≤ 57 := by
  rw [Char.isAlphanum, Bool.or_eq_true, isAlpha_iff_toNat, Char.isDigit_iff_toNat]
  rfl

def itself (c : Char) : Pattern := .one (classOf [(c.toNat, c.toNat)])

@[simp] theorem classOf_itself_holds_iff {a c : Char} :
    (classOf [(a.toNat, a.toNat)]).holds c = true ↔ c = a := by
  rw [classOf_holds_iff, ← Char.toNat_inj]
  constructor
  · rintro ⟨r, hr, hlow, hhigh⟩
    rw [List.mem_singleton.1 hr] at hlow hhigh
    exact le_antisymm hhigh hlow
  · exact fun h => ⟨_, List.mem_singleton_self _, h.ge, h.le⟩

@[simp]
theorem mem_itself_iff {a : Char} {xs : List Char} : xs ∈ (itself a).language ↔ xs = [a] := by
  constructor
  · rintro ⟨c, hc, rfl⟩
    rw [classOf_itself_holds_iff.1 hc]
  · rintro rfl
    exact ⟨a, classOf_itself_holds_iff.2 rfl, rfl⟩

@[simp]
theorem letters_holds_iff {c : Char} : (classOf letters).holds c = true ↔ c.isAlpha = true := by
  rw [isAlpha_iff_toNat]
  simp [classOf_holds_iff, letters]

@[simp]
theorem digits_holds_iff {c : Char} : (classOf [(48, 57)]).holds c = true ↔ c.isDigit = true := by
  rw [classOf_holds_iff, Char.isDigit_iff_toNat]
  simp

@[simp] theorem labelCharacters_holds_iff {c : Char} :
    (classOf labelCharacters).holds c = true ↔ isLabelChar c = true := by
  simp only [isLabelChar, Bool.or_eq_true, beq_iff_eq, isAlphanum_iff_toNat, ← Char.toNat_inj]
  simp [classOf_holds_iff, labelCharacters, letters]
  omega

@[simp] theorem nameCharacters_holds_iff {c : Char} :
    (classOf nameCharacters).holds c = true ↔ isLocalChar c = true := by
  simp only [isLocalChar, Bool.or_eq_true, beq_iff_eq, isAlphanum_iff_toNat, ← Char.toNat_inj]
  simp [classOf_holds_iff, nameCharacters, letters]
  omega

structure IsLabelled (domain : List Char) : Prop where
  two : 2 ≤ (domain.splitOn '.').length
  label : ∀ l ∈ domain.splitOn '.', l ≠ [] ∧ ∀ c ∈ l, isLabelChar c = true
  top : ∀ l ∈ (domain.splitOn '.').getLast?, 2 ≤ l.length ∧ ∀ c ∈ l, c.isAlpha = true

/-- A name before the only at sign of a text and a domain after it. -/
structure IsAddressOf (cs name domain : List Char) : Prop where
  whole : cs = name ++ '@' :: domain
  one_at : cs.count '@' = 1
  name_ne : name ≠ []
  name_all : ∀ c ∈ name, isLocalChar c = true
  labelled : IsLabelled domain

theorem splitAt_eq_splitOn (a : Char) (cs : List Char) : splitAt a cs = cs.splitOn a := by
  induction cs with
  | nil => rfl
  | cons c cs ih =>
    unfold splitAt
    rw [ih, List.splitOn_cons_eq_if_modifyHead]
    split
    · rfl
    · cases h : cs.splitOn a with
      | nil => exact absurd h (List.splitOn_ne_nil _ _)
      | cons p ps => rfl

theorem length_splitOn (a : Char) (cs : List Char) : (cs.splitOn a).length = cs.count a + 1 := by
  induction cs with
  | nil => rfl
  | cons c cs ih =>
    rw [List.splitOn_cons_eq_if_modifyHead, List.count_cons]
    split <;> simp [ih]

theorem splitOn_eq_pair_iff {a : Char} {cs xs ys : List Char} :
    cs.splitOn a = [xs, ys] ↔ cs = xs ++ a :: ys ∧ cs.count a = 1 := by
  constructor
  · intro h
    have hlength := length_splitOn a cs
    have hwhole := @List.intercalate_splitOn _ cs _ _ a
    rw [h] at hlength hwhole
    exact ⟨by rw [← hwhole]; simp, (Nat.succ.inj hlength).symm⟩
  · rintro ⟨rfl, hcount⟩
    rw [List.count_append, List.count_cons_self] at hcount
    have hxs : a ∉ xs := List.count_eq_zero.1 (by omega)
    have hys : a ∉ ys := List.count_eq_zero.1 (by omega)
    rw [List.splitOn_append_cons_self_of_not_mem hxs, List.splitOn_eq_singleton hys]

@[simp] theorem isDomain_iff {domain : List Char} : isDomain domain = true ↔ IsLabelled domain := by
  have hlast : ((domain.splitOn '.').getLast?.any isTopLabel = true) ↔
      ∀ l ∈ (domain.splitOn '.').getLast?, 2 ≤ l.length ∧ ∀ c ∈ l, c.isAlpha = true := by
    rw [List.getLast?_eq_some_getLast (List.splitOn_ne_nil _ _)]
    simp [isTopLabel]
  simp only [isDomain, splitAt_eq_splitOn, Bool.and_eq_true, decide_eq_true_eq, hlast, and_assoc,
    List.all_eq_true, isLabel, Bool.not_eq_true', List.isEmpty_eq_false_iff]
  exact ⟨fun ⟨htwo, hlabel, htop⟩ => ⟨htwo, hlabel, htop⟩, fun h => ⟨h.two, h.label, h.top⟩⟩

theorem isAddress_iff {cs : List Char} :
    isAddress cs = true ↔ ∃ name domain, IsAddressOf cs name domain := by
  unfold isAddress
  rw [splitAt_eq_splitOn]
  constructor
  · intro h
    split at h
    · rename_i name domain hsplit
      obtain ⟨hwhole, hcount⟩ := splitOn_eq_pair_iff.1 hsplit
      simp only [Bool.and_eq_true, isDomain_iff, List.all_eq_true, Bool.not_eq_true',
        List.isEmpty_eq_false_iff] at h
      exact ⟨name, domain, hwhole, hcount, h.1.1, h.1.2, h.2⟩
    · cases h
  · rintro ⟨name, domain, h⟩
    rw [splitOn_eq_pair_iff.2 ⟨h.whole, h.one_at⟩]
    simpa only [Bool.and_eq_true, isDomain_iff, List.all_eq_true, Bool.not_eq_true',
      List.isEmpty_eq_false_iff] using ⟨⟨h.name_ne, h.name_all⟩, h.labelled⟩

theorem intercalate_cons_eq (a : Char) (xs : List Char) (xss : List (List Char)) :
    [a].intercalate (xs :: xss) = xs ++ (xss.map (a :: ·)).flatten := by
  induction xss generalizing xs with
  | nil => simp
  | cons ys xss ih => rw [List.intercalate_cons_cons, ih]; simp

theorem isLabelChar_of_isAlpha {c : Char} (h : c.isAlpha = true) : isLabelChar c = true := by
  simp [isLabelChar, Char.isAlphanum, h]

theorem isLabelled_iff {domain : List Char} : IsLabelled domain ↔
    ∃ (first : List Char) (further : List (List Char)) (top : List Char),
      (first ≠ [] ∧ ∀ c ∈ first, isLabelChar c = true) ∧
      (∀ l ∈ further, l ≠ [] ∧ ∀ c ∈ l, isLabelChar c = true) ∧
      (2 ≤ top.length ∧ ∀ c ∈ top, c.isAlpha = true) ∧
      first ++ ((further.map ('.' :: ·)).flatten ++ '.' :: top) = domain := by
  have hjoin : ∀ (first : List Char) (further : List (List Char)) (top : List Char),
      first ++ ((further.map ('.' :: ·)).flatten ++ '.' :: top) =
        ['.'].intercalate (first :: further ++ [top]) := by
    intro first further top
    rw [List.cons_append, intercalate_cons_eq]
    simp
  constructor
  · intro h
    obtain ⟨first, rest, hsplit⟩ := List.exists_cons_of_ne_nil (List.splitOn_ne_nil '.' domain)
    rcases rest.eq_nil_or_concat with rfl | ⟨further, top, rfl⟩
    · have htwo := h.two
      rw [hsplit] at htwo
      exact absurd htwo (Nat.not_succ_le_self 1)
    · rw [List.concat_eq_append, ← List.cons_append] at hsplit
      have hlabel := h.label
      rw [hsplit, List.forall_mem_append, List.forall_mem_cons] at hlabel
      have htop : top ∈ (domain.splitOn '.').getLast? := by rw [hsplit, List.getLast?_concat]; rfl
      refine ⟨first, further, top, hlabel.1.1, hlabel.1.2, h.top top htop, ?_⟩
      rw [hjoin, ← hsplit, List.intercalate_splitOn]
  · rintro ⟨first, further, top, hfirst, hfurther, htop, rfl⟩
    have hlabel : ∀ l ∈ first :: further ++ [top], l ≠ [] ∧ ∀ c ∈ l, isLabelChar c = true := by
      rw [List.forall_mem_append, List.forall_mem_cons, List.forall_mem_singleton]
      refine ⟨⟨hfirst, hfurther⟩, ?_, fun c hc => isLabelChar_of_isAlpha (htop.2 c hc)⟩
      exact List.ne_nil_of_length_pos (by omega)
    have hpoint : ∀ l ∈ first :: further ++ [top], '.' ∉ l :=
      fun l hl hmem => absurd ((hlabel l hl).2 _ hmem) (by decide)
    have hsplit := List.splitOn_intercalate '.' hpoint (List.cons_ne_nil _ _)
    rw [← hjoin] at hsplit
    constructor
    · rw [hsplit]
      simp
    · rwa [hsplit]
    · rw [hsplit, List.getLast?_concat]
      rintro _ ⟨⟩
      exact htop

theorem isLocalChar_of_isLabelChar {c : Char} (h : isLabelChar c = true) :
    isLocalChar c = true := by
  rw [isLabelChar, Bool.or_eq_true] at h
  rcases h with h | h <;> simp [isLocalChar, h]

theorem IsLabelled.all_local {domain : List Char} (h : IsLabelled domain) :
    ∀ c ∈ domain, isLocalChar c = true := by
  obtain ⟨first, further, top, hfirst, hfurther, htop, rfl⟩ := isLabelled_iff.1 h
  have hwith : ∀ l : List Char, (∀ c ∈ l, isLabelChar c = true) →
      ∀ c ∈ l, isLocalChar c = true := fun l hl c hc => isLocalChar_of_isLabelChar (hl c hc)
  simp only [List.forall_mem_append, List.forall_mem_cons, List.mem_flatten, List.mem_map]
  refine ⟨hwith _ hfirst.2, ?_, rfl, hwith _ fun c hc => isLabelChar_of_isAlpha (htop.2 c hc)⟩
  rintro c ⟨_, ⟨l, hl, rfl⟩, hc⟩
  rcases List.mem_cons.1 hc with rfl | hc
  · rfl
  · exact hwith l (hfurther l hl).2 c hc

theorem isAddressOf_iff {cs name domain : List Char} : IsAddressOf cs name domain ↔
    (name ≠ [] ∧ ∀ c ∈ name, isLocalChar c = true) ∧ IsLabelled domain ∧
      name ++ '@' :: domain = cs := by
  constructor
  · exact fun h => ⟨⟨h.name_ne, h.name_all⟩, h.labelled, h.whole.symm⟩
  · rintro ⟨⟨hne, hall⟩, hlabelled, rfl⟩
    refine ⟨rfl, ?_, hne, hall, hlabelled⟩
    have hname : '@' ∉ name := fun hmem => absurd (hall _ hmem) (by decide)
    have hdomain : '@' ∉ domain := fun hmem => absurd (hlabelled.all_local _ hmem) (by decide)
    rw [List.count_append, List.count_cons_self, List.count_eq_zero_of_not_mem hname,
      List.count_eq_zero_of_not_mem hdomain]

def patternText : String :=
  "^[a-zA-Z0-9._%+-]+@[a-zA-Z0-9-]+(\\.[a-zA-Z0-9-]+)*\\.[a-zA-Z]\x7b2,\x7d$"

def nameOf : Pattern := .repetition 1 none .greedy (.one (classOf nameCharacters))

def labelOf : Pattern := .repetition 1 none .greedy (.one (classOf labelCharacters))

def pointedLabel : Pattern := .group 1 (.seq (itself '.') labelOf)

def furtherLabels : Pattern := .repetition 0 none .greedy pointedLabel

def topLabel : Pattern := .repetition 2 none .greedy (.one (classOf letters))

def domainThen (p : Pattern) : Pattern :=
  .seq labelOf (.seq furtherLabels (.seq (itself '.') (.seq topLabel p)))

def addressThen (p : Pattern) : Pattern := .seq nameOf (.seq (itself '@') (domainThen p))

def pattern : Pattern := .seq (.anchor .textStart) (addressThen (.anchor .lastLineEnd))

set_option maxRecDepth 4000 in
theorem read_patternText : Pattern.read names true patternText.toList = .ok pattern := by
  cbv

@[simp] theorem mem_nameOf_iff {xs : List Char} :
    xs ∈ nameOf.language ↔ xs ≠ [] ∧ ∀ c ∈ xs, isLocalChar c = true := by
  simp only [nameOf, Pattern.mem_repeated_class_iff, nameCharacters_holds_iff,
    Nat.one_le_iff_ne_zero, ne_eq, List.length_eq_zero_iff]

@[simp] theorem mem_labelOf_iff {xs : List Char} :
    xs ∈ labelOf.language ↔ xs ≠ [] ∧ ∀ c ∈ xs, isLabelChar c = true := by
  simp only [labelOf, Pattern.mem_repeated_class_iff, labelCharacters_holds_iff,
    Nat.one_le_iff_ne_zero, ne_eq, List.length_eq_zero_iff]

@[simp] theorem mem_topLabel_iff {xs : List Char} :
    xs ∈ topLabel.language ↔ 2 ≤ xs.length ∧ ∀ c ∈ xs, c.isAlpha = true := by
  simp only [topLabel, Pattern.mem_repeated_class_iff, letters_holds_iff]

theorem mem_pointedLabel_iff {xs : List Char} :
    xs ∈ pointedLabel.language ↔ ∃ l ∈ labelOf.language, '.' :: l = xs := by
  have hseq : xs ∈ pointedLabel.language ↔ xs ∈ (Pattern.seq (itself '.') labelOf).language :=
    Iff.rfl
  simp only [hseq, Pattern.mem_seq_iff, mem_itself_iff, exists_eq_left, List.singleton_append]

theorem mem_furtherLabels_iff {xs : List Char} : xs ∈ furtherLabels.language ↔
    ∃ ls : List (List Char), (∀ l ∈ ls, l ∈ labelOf.language) ∧
      (ls.map ('.' :: ·)).flatten = xs := by
  constructor
  · rintro ⟨n, -, -, hxs⟩
    obtain ⟨words, rfl, -, hwords⟩ := Language.mem_pow.1 hxs
    refine ⟨words.map List.tail, ?_, ?_⟩
    · intro l hl
      obtain ⟨word, hword, rfl⟩ := List.mem_map.1 hl
      obtain ⟨l, hlabel, rfl⟩ := mem_pointedLabel_iff.1 (hwords word hword)
      exact hlabel
    · rw [List.map_map]
      refine congrArg List.flatten ((List.map_congr_left fun word hword => ?_).trans words.map_id)
      obtain ⟨l, -, rfl⟩ := mem_pointedLabel_iff.1 (hwords word hword)
      rfl
  · rintro ⟨ls, hls, rfl⟩
    refine ⟨ls.length, Nat.zero_le _, by simp, Language.mem_pow.2 ⟨_, rfl, by simp, ?_⟩⟩
    intro y hy
    obtain ⟨l, hl, rfl⟩ := List.mem_map.1 hy
    exact mem_pointedLabel_iff.2 ⟨l, hls l hl, rfl⟩

theorem addressThen_empty_regular : (addressThen .empty).IsRegular := by
  have hclass : ∀ (least : Nat) (c : CharClass),
      (Pattern.repetition least none .greedy (.one c)).IsRegular :=
    fun least c => Pattern.isRegular_counted_class c (by simp)
  refine ⟨hclass _ _, trivial, hclass _ _, ⟨⟨trivial, hclass _ _⟩, ?_, by simp, by simp⟩, trivial,
    hclass _ _, trivial⟩
  intro h
  obtain ⟨l, -, hl⟩ := mem_pointedLabel_iff.1 h
  cases hl

theorem mem_domainThen_iff {domain : List Char} :
    domain ∈ (domainThen .empty).language ↔ IsLabelled domain := by
  simp only [isLabelled_iff, ← mem_labelOf_iff, ← mem_topLabel_iff, domainThen,
    Pattern.mem_seq_iff, mem_itself_iff, mem_furtherLabels_iff, Pattern.mem_empty_iff,
    exists_eq_left, exists_eq_right, exists_exists_and_eq_and, exists_and_left, List.append_nil,
    List.singleton_append]
  constructor
  · rintro ⟨first, hfirst, _, ⟨further, hfurther, top, htop, rfl⟩, rfl⟩
    exact ⟨first, hfirst, further, hfurther, top, htop, rfl⟩
  · rintro ⟨first, hfirst, further, hfurther, top, htop, rfl⟩
    exact ⟨first, hfirst, _, ⟨further, hfurther, top, htop, rfl⟩, rfl⟩

theorem mem_addressThen_iff {cs : List Char} : cs ∈ (addressThen .empty).language ↔
    ∃ name domain, IsAddressOf cs name domain := by
  simp only [addressThen, Pattern.mem_seq_iff, mem_nameOf_iff, mem_itself_iff, exists_eq_left,
    List.singleton_append, mem_domainThen_iff, isAddressOf_iff, exists_and_left,
    exists_exists_and_eq_and]

/-- Every way to take an address up from its start ends where the text does, so that the anchors
at its two ends add nothing. -/
theorem fills_pattern_iff {cs : List Char} :
    pattern.fills cs = true ↔ ∃ name domain, IsAddressOf cs name domain := by
  rw [← mem_addressThen_iff]
  exact Pattern.run_to_end_isSome_iff addressThen_empty_regular (Pattern.lastLineEnd_isSome_iff cs)

theorem ascii_of_isLocalChar {c : Char} (h : isLocalChar c = true) : c.toNat < 128 ∧ c ≠ '\n' := by
  rw [← Char.toNat_inj.ne]
  simp only [isLocalChar, Bool.or_eq_true, beq_iff_eq, isAlphanum_iff_toNat, ← Char.toNat_inj] at h
  simp at h ⊢
  omega

theorem IsAddressOf.ascii {cs name domain : List Char} (h : IsAddressOf cs name domain) :
    ∀ c ∈ cs, c.toNat < 128 ∧ c ≠ '\n' := by
  rw [h.whole, List.forall_mem_append, List.forall_mem_cons]
  exact ⟨fun c hc => ascii_of_isLocalChar (h.name_all c hc), by decide,
    fun c hc => ascii_of_isLocalChar (h.labelled.all_local c hc)⟩

end Email

namespace Check

def addressMessages (s : String) (follows restricted : Bool) : List String :=
  (if follows then [] else [s!"Invalid email address: \"{s}\""]) ++
    (if follows && !restricted then [] else
      [s!"Email address does not meet validation requirements: \"{s}\""])

@[simp] theorem addressMessages_eq_nil_iff {s : String} {follows restricted : Bool} :
    addressMessages s follows restricted = [] ↔ follows = true ∧ restricted = false := by
  cases follows <;> cases restricted <;> simp [addressMessages]

def restriction (names : Pattern.Names) (normal : Option String) (restrictions : Value) :
    Except Fault Bool :=
  (if restrictions.truthy then restrictions.items else pure []) >>= isRestricted names normal

theorem email_text_eq (s : String) (restrictions : Value) :
    email names (.text s) restrictions =
      addressMessages s (Email.isAddress s.toList) <$>
        restriction names (Email.normalize? s) restrictions := by
  unfold email restriction
  simp only [Value.text?, Option.any_some, Option.bind_some, ite_bind_eq]
  rw [map_eq_pure_bind, bind_assoc]
  refine bind_congr fun patterns => bind_congr fun restricted => ?_
  cases restricted <;> cases Email.isAddress s.toList <;> rfl

/-- Without restrictions a text gets no message where it is an address. That is where the pattern
matches it from end to end, and no character is then beyond ASCII or a line break. -/
theorem email_accepts_grammar (s : String) {restrictions : Value}
    (h : restrictions.truthy = false) :
    ∃ messages p, email names (.text s) restrictions = .ok messages ∧
      Pattern.read names true Email.patternText.toList = .ok p ∧
      (messages = [] ↔ ∃ name domain, Email.IsAddressOf s.toList name domain) ∧
      (messages = [] ↔ p.fills s.toList = true) ∧
      (messages = [] → ∀ c ∈ s.toList, c.toNat < 128 ∧ c ≠ '\n') := by
  have hmessages : email names (.text s) restrictions =
      .ok (addressMessages s (Email.isAddress s.toList) false) := by
    rw [email_text_eq, restriction, h]
    rfl
  have hempty : addressMessages s (Email.isAddress s.toList) false = [] ↔
      ∃ name domain, Email.IsAddressOf s.toList name domain := by
    rw [addressMessages_eq_nil_iff, Email.isAddress_iff, and_iff_left rfl]
  refine ⟨_, Email.pattern, hmessages, Email.read_patternText, hempty,
    hempty.trans Email.fills_pattern_iff.symm, fun hnil => ?_⟩
  obtain ⟨name, domain, haddress⟩ := hempty.1 hnil
  exact haddress.ascii

theorem email_accepts_grammar_subdomain :
    Value.null.truthy = false ∧ email .none (.text "a.b+c@mail.example.co") .null = .ok [] := by
  obtain ⟨messages, -, heq, -, hempty, -⟩ :=
    @email_accepts_grammar .none "a.b+c@mail.example.co" .null rfl
  have haddress : Email.isAddress "a.b+c@mail.example.co".toList = true := by decide +kernel
  exact ⟨rfl, by rw [heq, hempty.2 (Email.isAddress_iff.1 haddress)]⟩

end Check

end Intake
