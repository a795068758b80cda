import Intake.Number.Loose
import Intake.Proofs.Aliases
import Intake.Proofs.Dates
import Intake.Proofs.Numbers
import Intake.Proofs.Numerals
import Mathlib.Data.List.TakeWhile

/-! Numbers in text. A text counts as a number where it follows a grammar of ASCII characters, once
blanks have been cut off. The same texts are those that a pattern matches from end to end, however
their digits may be divided between its parts, and every one of them is also read, to the same
number, by the rules for settings, which take more spellings. -/

namespace Intake

namespace Pattern

def spelled : Char → List Char → Pattern
  | c, [] => Email.itself c
  | c, d :: cs => .seq (Email.itself c) (spelled d cs)

@[simp] theorem mem_spelled_iff {c : Char} {cs xs : List Char} :
    xs ∈ (spelled c cs).language ↔ xs = c :: cs := by
  induction cs generalizing c xs with
  | nil => exact Email.mem_itself_iff
  | cons d cs ih =>
    rw [spelled, mem_seq_iff]
    simp only [Email.mem_itself_iff, ih, exists_eq_left, List.singleton_append, eq_comm]

theorem isRegular_spelled (c : Char) (cs : List Char) : (spelled c cs).IsRegular := by
  induction cs generalizing c with
  | nil => trivial
  | cons d cs ih => exact ⟨trivial, ih d⟩

end Pattern

namespace Number

inductive IsSign : List Char → Prop
  | missing : IsSign []
  | plus : IsSign ['+']
  | minus : IsSign ['-']

structure IsDigits (ds : List Char) : Prop where
  ne_nil : ds ≠ []
  digits : AreDigits ds

inductive IsMagnitude : List Char → Prop
  | whole {ds : List Char} (h : IsDigits ds) : IsMagnitude ds
  | point {ds fs : List Char} (h : IsDigits ds) (hf : AreDigits fs) : IsMagnitude (ds ++ '.' :: fs)
  | fraction {fs : List Char} (h : IsDigits fs) : IsMagnitude ('.' :: fs)

inductive IsExponent : List Char → Prop
  | missing : IsExponent []
  | written {mark : Char} {sign ds : List Char} (hmark : mark = 'e' ∨ mark = 'E')
    (hsign : IsSign sign) (h : IsDigits ds) : IsExponent (mark :: (sign ++ ds))

/-- What counts as a number in text. -/
inductive IsNumeric : List Char → Prop
  | infinity {sign : List Char} (hsign : IsSign sign) : IsNumeric (sign ++ infinityWord)
  | decimal {sign m e : List Char} (hsign : IsSign sign) (hm : IsMagnitude m) (he : IsExponent e) :
    IsNumeric (sign ++ (m ++ e))

section
variable {cs rest : List Char}

theorem exists_sign (cs : List Char) : ∃ sign, IsSign sign ∧ cs = sign ++ (readSign cs).2 := by
  unfold readSign
  split
  · exact ⟨_, .minus, rfl⟩
  · exact ⟨_, .plus, rfl⟩
  · exact ⟨_, .missing, rfl⟩

theorem readSign_append {sign : List Char} (hsign : IsSign sign)
    (h : ∀ c, rest.head? = some c → c ≠ '+' ∧ c ≠ '-') : (readSign (sign ++ rest)).2 = rest := by
  cases hsign with
  | plus | minus => rfl
  | missing =>
    cases rest with
    | nil => rfl
    | cons c rest =>
      obtain ⟨hplus, hminus⟩ := h c rfl
      unfold readSign
      split
      · rename_i heq
        exact absurd (List.cons.inj heq).1 hminus
      · rename_i heq
        exact absurd (List.cons.inj heq).1 hplus
      · rfl

theorem ne_sign_of_isDigit {c : Char} (h : c.isDigit = true) : c ≠ '+' ∧ c ≠ '-' := by
  constructor <;> rintro rfl <;> cases h

theorem IsDigits.head_digit {ds : List Char} (h : IsDigits ds) :
    ∃ c cs, ds = c :: cs ∧ c.isDigit = true := by
  obtain ⟨c, cs, rfl⟩ := List.exists_cons_of_ne_nil h.ne_nil
  exact ⟨c, cs, rfl, h.digits c List.mem_cons_self⟩

theorem IsMagnitude.head {m : List Char} (h : IsMagnitude m) :
    ∃ c cs, m = c :: cs ∧ (c.isDigit = true ∨ c = '.') := by
  cases h with
  | fraction h => exact ⟨'.', _, rfl, .inr rfl⟩
  | whole h =>
    obtain ⟨c, cs, rfl, hc⟩ := h.head_digit
    exact ⟨c, cs, rfl, .inl hc⟩
  | point h hf =>
    obtain ⟨c, cs, rfl, hc⟩ := h.head_digit
    exact ⟨c, _, rfl, .inl hc⟩

theorem IsMagnitude.readSign_eq {sign m : List Char} (h : IsMagnitude m) (hsign : IsSign sign)
    (rest : List Char) : (readSign (sign ++ (m ++ rest))).2 = m ++ rest := by
  obtain ⟨c, cs, rfl, hc⟩ := h.head
  refine readSign_append hsign fun d hd => ?_
  obtain rfl := Option.some.inj hd
  rcases hc with hdigit | rfl
  · exact ne_sign_of_isDigit hdigit
  · decide

theorem readSign_infinity {sign : List Char} (hsign : IsSign sign) :
    (readSign (sign ++ infinityWord)).2 = infinityWord := by
  refine readSign_append hsign fun c hc => ?_
  obtain rfl := Option.some.inj hc
  decide

@[simp] theorem isSome_readExponent?_iff : (readExponent? cs).isSome = true ↔ IsExponent cs := by
  constructor
  · intro h
    cases cs with
    | nil => exact .missing
    | cons c cs =>
      unfold readExponent? at h
      dsimp only at h
      split_ifs at h with hmark hdigits
      · cases h
      · obtain ⟨sign, hsign, hcs⟩ := exists_sign cs
        rw [Bool.or_eq_true, beq_iff_eq, beq_iff_eq] at hmark
        rw [Bool.or_eq_true, not_or, Bool.not_eq_true, List.isEmpty_eq_false_iff, Bool.not_eq_true,
          Bool.not_eq_false', List.all_eq_true] at hdigits
        rw [hcs]
        exact .written hmark hsign ⟨hdigits.1, hdigits.2⟩
      · cases h
  · intro h
    cases h with
    | missing => rfl
    | @written mark sign ds hmark hsign h =>
      obtain ⟨c, cs, rfl, hc⟩ := h.head_digit
      have hsplit : (readSign (sign ++ c :: cs)).2 = c :: cs :=
        readSign_append hsign fun d hd => Option.some.inj hd ▸ ne_sign_of_isDigit hc
      have hmark' : (mark == 'e' || mark == 'E') = true := by
        rwa [Bool.or_eq_true, beq_iff_eq, beq_iff_eq]
      have hall : (c :: cs).all Char.isDigit = true := List.all_eq_true.2 h.digits
      simp only [readExponent?, hmark', hsplit, hall, List.isEmpty_cons, Bool.not_true,
        Bool.or_self,
        Bool.false_eq_true, if_false, if_true, Option.isSome_some]

theorem IsExponent.head {e : List Char} (h : IsExponent e) :
    ∀ c, e.head? = some c → c.isDigit = false ∧ c ≠ '.' := by
  intro c hc
  cases h with
  | missing => cases hc
  | written hmark =>
    obtain rfl := Option.some.inj hc
    rcases hmark with rfl | rfl <;> decide

theorem areDigits_takeWhile (cs : List Char) : AreDigits (cs.takeWhile Char.isDigit) :=
  fun _ hc => List.mem_takeWhile_imp hc

theorem exists_of_isSome_readNumeral? (h : (readNumeral? cs).isSome = true) :
    ∃ m e, (readSign cs).2 = m ++ e ∧ IsMagnitude m ∧ IsExponent e := by
  unfold readNumeral? at h
  dsimp only at h
  generalize (readSign cs).2 = text at h
  have hparts := List.takeWhile_append_dropWhile (p := Char.isDigit) (l := text)
  have hwhole := areDigits_takeWhile text
  split at h
  · rename_i rest hdrop
    have hfraction := areDigits_takeWhile rest
    have htext : text = (text.takeWhile Char.isDigit ++ '.' :: rest.takeWhile Char.isDigit) ++
        rest.dropWhile Char.isDigit := by
      rw [List.append_assoc, List.cons_append, List.takeWhile_append_dropWhile, ← hdrop, hparts]
    split_ifs at h with hnone
    · cases h
    · rw [Option.isSome_map, isSome_readExponent?_iff] at h
      refine ⟨_, _, htext, ?_, h⟩
      cases hdigits : text.takeWhile Char.isDigit with
      | cons c ds =>
        rw [hdigits] at hwhole
        exact .point ⟨List.cons_ne_nil c ds, hwhole⟩ hfraction
      | nil =>
        rw [hdigits, List.isEmpty_nil, Bool.true_and, List.isEmpty_iff] at hnone
        exact .fraction ⟨hnone, hfraction⟩
  · split_ifs at h with hnone
    · cases h
    · rw [Option.isSome_map, isSome_readExponent?_iff] at h
      rw [List.isEmpty_iff] at hnone
      exact ⟨_, _, hparts.symm, .whole ⟨hnone, hwhole⟩, h⟩

theorem isSome_readNumeral? {m e : List Char} (htext : (readSign cs).2 = m ++ e)
    (hm : IsMagnitude m)
    (he : IsExponent e) : (readNumeral? cs).isSome = true := by
  have hexponent := isSome_readExponent?_iff.2 he
  have hnondigit : ∀ c, e.head? = some c → c.isDigit = false := fun c hc => (he.head c hc).1
  unfold readNumeral?
  dsimp only
  rw [htext]
  cases hm with
  | whole h =>
    obtain ⟨htake, hdrop⟩ := Json.takeWhile_digits h.digits hnondigit
    have hsome : m.isEmpty = false := List.isEmpty_eq_false_iff.2 h.ne_nil
    rw [htake, hdrop]
    split
    · exact absurd rfl (he.head '.' rfl).2
    · rwa [hsome, if_neg Bool.false_ne_true, Option.isSome_map]
  | @point ds fs h hf =>
    have hpoint : ∀ c, ('.' :: (fs ++ e)).head? = some c → c.isDigit = false := by
      rintro _ ⟨⟩
      rfl
    obtain ⟨htake, hdrop⟩ := Json.takeWhile_digits h.digits hpoint
    obtain ⟨htake', hdrop'⟩ := Json.takeWhile_digits hf hnondigit
    have hsome : ds.isEmpty = false := List.isEmpty_eq_false_iff.2 h.ne_nil
    rw [List.append_assoc, List.cons_append, htake, hdrop]
    split
    · rename_i rest hrest
      obtain rfl := (List.cons.inj hrest).2
      rwa [htake', hdrop', hsome, Bool.false_and, if_neg Bool.false_ne_true, Option.isSome_map]
    · rename_i hother
      exact absurd rfl (hother _)
  | @fraction fs h =>
    obtain ⟨htake, hdrop⟩ := Json.takeWhile_digits h.digits hnondigit
    have hsome : fs.isEmpty = false := List.isEmpty_eq_false_iff.2 h.ne_nil
    have hpoint : ¬ '.'.isDigit = true := by decide
    rw [List.cons_append, List.takeWhile_cons_of_neg hpoint, List.dropWhile_cons_of_neg hpoint]
    split
    · rename_i rest hrest
      obtain rfl := (List.cons.inj hrest).2
      rwa [htake, hdrop, hsome, Bool.and_false, if_neg Bool.false_ne_true, Option.isSome_map]
    · rename_i hother
      exact absurd rfl (hother _)

@[simp] theorem isSome_readNumber?_iff : (readNumber? cs).isSome = true ↔ IsNumeric cs := by
  obtain ⟨sign, hsign, hcs⟩ := exists_sign cs
  unfold readNumber?
  dsimp only
  constructor
  · intro h
    split_ifs at h with hword
    · rw [beq_iff_eq] at hword
      rw [hcs, hword]
      exact .infinity hsign
    · rw [Option.isSome_map] at h
      obtain ⟨m, e, htext, hm, he⟩ := exists_of_isSome_readNumeral? h
      rw [hcs, htext]
      exact .decimal hsign hm he
  · intro h
    split_ifs with hword
    · rfl
    · rw [Option.isSome_map]
      cases h with
      | infinity hsign' => exact absurd (beq_iff_eq.2 (readSign_infinity hsign')) hword
      | @decimal _ m e hsign' hm he => exact isSome_readNumeral? (hm.readSign_eq hsign' e) hm he

def IsNumericChar (c : Char) : Prop := c.isDigit = true ∨ c ∈ ['+', '-', '.', 'e', 'E']

theorem IsSign.chars {sign : List Char} (h : IsSign sign) : ∀ c ∈ sign, IsNumericChar c := by
  cases h with
  | missing => exact List.forall_mem_nil _
  | plus | minus => exact List.forall_mem_singleton.2 (.inr (by decide))

theorem AreDigits.chars {ds : List Char} (h : AreDigits ds) : ∀ c ∈ ds, IsNumericChar c :=
  fun c hc => .inl (h c hc)

theorem IsMagnitude.chars {m : List Char} (h : IsMagnitude m) : ∀ c ∈ m, IsNumericChar c := by
  have hpoint : IsNumericChar '.' := .inr (by decide)
  cases h with
  | whole h => exact h.digits.chars
  | point h hf =>
    rw [List.forall_mem_append, List.forall_mem_cons]
    exact ⟨h.digits.chars, hpoint, hf.chars⟩
  | fraction h => exact List.forall_mem_cons.2 ⟨hpoint, h.digits.chars⟩

theorem IsExponent.chars {e : List Char} (h : IsExponent e) : ∀ c ∈ e, IsNumericChar c := by
  cases h with
  | missing => exact List.forall_mem_nil _
  | written hmark hsign h =>
    rw [List.forall_mem_cons, List.forall_mem_append]
    refine ⟨.inr ?_, hsign.chars, h.digits.chars⟩
    rcases hmark with rfl | rfl <;> decide

theorem IsNumeric.chars (h : IsNumeric cs) :
    (∃ sign, IsSign sign ∧ cs = sign ++ infinityWord) ∨ ∀ c ∈ cs, IsNumericChar c := by
  cases h with
  | infinity hsign => exact .inl ⟨_, hsign, rfl⟩
  | decimal hsign hm he =>
    rw [List.forall_mem_append, List.forall_mem_append]
    exact .inr ⟨hsign.chars, hm.chars, he.chars⟩

end

namespace NumberPattern
open Email (classOf classOf_holds_iff itself mem_itself_iff)
open Pattern

def patternText : String :=
  "[+-]?(?:(?:[0-9]+(?:\\.[0-9]*)?|\\.[0-9]+)(?:[eE][+-]?[0-9]+)?|Infinity)"

def signOf : Pattern := optionally (.one (classOf [(43, 43), (45, 45)]))

def digitsFrom (least : Nat) : Pattern := .repetition least none .greedy (.one (classOf [(48, 57)]))

def pointed (least : Nat) : Pattern := .seq (itself '.') (digitsFrom least)

def magnitudeOf : Pattern :=
  .scope (.alt (.seq (digitsFrom 1) (optionally (.scope (pointed 0)))) (pointed 1))

def exponentOf : Pattern := .scope (.seq (.one (classOf [(101, 101), (69, 69)]))
  (.seq signOf (digitsFrom 1)))

def pattern : Pattern := .seq signOf
  (.scope (.alt (.seq magnitudeOf (optionally exponentOf)) (spelled 'I' infinityWord.tail)))

set_option maxRecDepth 4000 in
theorem read_patternText {names : Names} :
    Pattern.read names true patternText.toList = .ok pattern := by
  cbv

theorem mem_two_iff {a b : Char} {xs : List Char} :
    xs ∈ (Pattern.one (classOf [(a.toNat, a.toNat), (b.toNat, b.toNat)])).language ↔
      xs = [a] ∨ xs = [b] := by
  have hclass : ∀ c : Char,
      (classOf [(a.toNat, a.toNat), (b.toNat, b.toNat)]).holds c = true ↔ c = a ∨ c = b := by
    intro c
    rw [classOf_holds_iff, ← Char.toNat_inj, ← Char.toNat_inj]
    simp only [List.mem_cons, List.not_mem_nil, or_false, exists_eq_or_imp, exists_eq_left]
    omega
  constructor
  · rintro ⟨c, hc, rfl⟩
    exact ((hclass c).1 hc).imp (congrArg (· :: [])) (congrArg (· :: []))
  · rintro (rfl | rfl)
    · exact ⟨a, (hclass a).2 (.inl rfl), rfl⟩
    · exact ⟨b, (hclass b).2 (.inr rfl), rfl⟩

@[simp] theorem mem_signOf_iff {xs : List Char} : xs ∈ signOf.language ↔ IsSign xs := by
  have htwo : xs ∈ (Pattern.one (classOf [(43, 43), (45, 45)])).language ↔
    xs = ['+'] ∨ xs = ['-'] :=
    @mem_two_iff '+' '-' xs
  unfold signOf
  rw [mem_optionally_iff, htwo]
  constructor
  · rintro (rfl | rfl | rfl)
    · exact .missing
    · exact .plus
    · exact .minus
  · intro h
    cases h <;> simp

theorem mem_digitsFrom_iff {least : Nat} {xs : List Char} :
    xs ∈ (digitsFrom least).language ↔ least ≤ xs.length ∧ AreDigits xs := by
  simp only [digitsFrom, mem_repeated_class_iff, Email.digits_holds_iff, AreDigits]

@[simp]
theorem mem_digitsFrom_one_iff {xs : List Char} : xs ∈ (digitsFrom 1).language ↔ IsDigits xs := by
  rw [mem_digitsFrom_iff]
  constructor
  · exact fun ⟨hlength, hdigits⟩ => ⟨List.ne_nil_of_length_pos hlength, hdigits⟩
  · exact fun h => ⟨List.length_pos_of_ne_nil h.ne_nil, h.digits⟩

theorem mem_pointed_iff {least : Nat} {xs : List Char} :
    xs ∈ (pointed least).language ↔ ∃ fs ∈ (digitsFrom least).language, '.' :: fs = xs := by
  simp only [pointed, mem_seq_iff, mem_itself_iff, exists_eq_left, List.singleton_append]

@[simp]
theorem mem_magnitudeOf_iff {xs : List Char} : xs ∈ magnitudeOf.language ↔ IsMagnitude xs := by
  have hscope : xs ∈ magnitudeOf.language ↔ xs ∈ (Pattern.alt
      (.seq (digitsFrom 1) (optionally (.scope (pointed 0)))) (pointed 1)).language := Iff.rfl
  have hinner : ∀ ys : List Char, ys ∈ (optionally (.scope (pointed 0))).language ↔
      ys = [] ∨ ∃ fs, AreDigits fs ∧ '.' :: fs = ys := by
    intro ys
    have hpointed := @mem_pointed_iff 0 ys
    simp only [mem_digitsFrom_iff, Nat.zero_le, true_and] at hpointed
    exact mem_optionally_iff.trans (or_congr_right hpointed)
  rw [hscope, mem_alt_iff, mem_seq_iff, mem_pointed_iff]
  simp only [hinner, mem_digitsFrom_one_iff]
  constructor
  · rintro (⟨ds, hds, _, rfl | ⟨fs, hfs, rfl⟩, rfl⟩ | ⟨fs, hfs, rfl⟩)
    · rw [List.append_nil]
      exact .whole hds
    · exact .point hds hfs
    · exact .fraction hfs
  · intro h
    cases h with
    | whole h => exact .inl ⟨xs, h, [], .inl rfl, List.append_nil xs⟩
    | point h hf => exact .inl ⟨_, h, _, .inr ⟨_, hf, rfl⟩, rfl⟩
    | fraction h => exact .inr ⟨_, h, rfl⟩

@[simp] theorem mem_exponentOf_iff {xs : List Char} :
    xs ∈ (optionally exponentOf).language ↔ IsExponent xs := by
  have hscope : xs ∈ exponentOf.language ↔ xs ∈ (Pattern.seq
      (.one (classOf [(101, 101), (69, 69)])) (.seq signOf (digitsFrom 1))).language := Iff.rfl
  have hmark : ∀ ys : List Char, ys ∈ (Pattern.one (classOf [(101, 101), (69, 69)])).language ↔
      ys = ['e'] ∨ ys = ['E'] := fun ys => @mem_two_iff 'e' 'E' ys
  rw [mem_optionally_iff, hscope]
  simp only [mem_seq_iff, hmark, mem_signOf_iff, mem_digitsFrom_one_iff]
  constructor
  · rintro (rfl | ⟨_, rfl | rfl, _, ⟨sign, hsign, ds, hds, rfl⟩, rfl⟩)
    · exact .missing
    · exact @IsExponent.written 'e' sign ds (.inl rfl) hsign hds
    · exact @IsExponent.written 'E' sign ds (.inr rfl) hsign hds
  · intro h
    cases h with
    | missing => exact .inl rfl
    | @written mark sign ds hmark hsign h =>
      refine .inr ⟨[mark], ?_, sign ++ ds, ⟨sign, hsign, ds, h, rfl⟩, rfl⟩
      exact hmark.imp (congrArg (· :: [])) (congrArg (· :: []))

@[simp] theorem mem_pattern_iff {xs : List Char} : xs ∈ pattern.language ↔ IsNumeric xs := by
  have hscope : xs ∈ pattern.language ↔ xs ∈ (Pattern.seq signOf
      (.alt (.seq magnitudeOf (optionally exponentOf))
        (spelled 'I' infinityWord.tail))).language := Iff.rfl
  rw [hscope]
  simp only [mem_seq_iff, mem_alt_iff, mem_spelled_iff, mem_signOf_iff, mem_magnitudeOf_iff,
    mem_exponentOf_iff]
  constructor
  · rintro ⟨sign, hsign, _, ⟨m, hm, e, he, rfl⟩ | rfl, rfl⟩
    · exact .decimal hsign hm he
    · exact .infinity hsign
  · intro h
    cases h with
    | infinity hsign => exact ⟨_, hsign, _, .inr rfl, rfl⟩
    | decimal hsign hm he => exact ⟨_, hsign, _, .inl ⟨_, hm, _, he, rfl⟩, rfl⟩

theorem isRegular_pattern : pattern.IsRegular := by
  have hclass : ∀ c : CharClass, [] ∉ (Pattern.one c).language := by
    rintro c ⟨x, -, hx⟩
    cases hx
  have hsign : signOf.IsRegular := isRegular_optionally trivial (hclass _)
  have hdigits : ∀ least, (digitsFrom least).IsRegular :=
    fun least => isRegular_counted_class _ (by simp)
  have hfraction : (optionally (.scope (pointed 0))).IsRegular := by
    refine isRegular_optionally ⟨trivial, hdigits 0⟩ fun h => ?_
    obtain ⟨fs, -, hfs⟩ := mem_pointed_iff.1 h
    cases hfs
  have hexponent : (optionally exponentOf).IsRegular := by
    refine isRegular_optionally ⟨trivial, hsign, hdigits 1⟩ fun h => ?_
    obtain ⟨_, ⟨c, -, rfl⟩, _, -, hcons⟩ := mem_seq_iff.1 h
    cases hcons
  exact ⟨hsign, ⟨⟨⟨hdigits 1, hfraction⟩, trivial, hdigits 1⟩, hexponent⟩, isRegular_spelled _ _⟩

@[simp] theorem fills_pattern_iff {cs : List Char} : pattern.fills cs = true ↔ IsNumeric cs := by
  rw [← mem_pattern_iff]
  refine run_to_end_isSome_iff isRegular_pattern fun t => ?_
  split_ifs with hend
  · exact iff_of_true rfl (beq_iff_eq.1 hend)
  · exact iff_of_false nofun fun heq => hend (beq_iff_eq.2 heq)

end NumberPattern

section
variable {cs : List Char}

theorem IsMagnitude.head_not_alpha {m : List Char} (h : IsMagnitude m) :
    ∃ c cs, m = c :: cs ∧ c.isAlpha = false := by
  obtain ⟨c, cs, rfl, hc⟩ := h.head
  refine ⟨c, cs, rfl, ?_⟩
  rcases hc with hdigit | rfl
  · rw [← Bool.not_eq_true, Email.isAlpha_iff_toNat]
    obtain ⟨hlow, hhigh⟩ : 48 ≤ c.toNat ∧ c.toNat ≤ 57 := Char.isDigit_iff_toNat.1 hdigit
    omega
  · rfl

theorem IsMagnitude.not_spells {m : List Char} (h : IsMagnitude m) (e : List Char) {word : String}
    {d : Char} {ds : List Char} (hword : word.toList = d :: ds) (hd : d.isAlpha = true) :
    (String.ofList ((m ++ e).map Char.toLower) == word) = false := by
  obtain ⟨c, rest, rfl, halpha⟩ := h.head_not_alpha
  rw [beq_eq_false_iff_ne, Ne, ← String.toList_inj, String.toList_ofList, hword, List.cons_append,
    List.map_cons]
  intro heq
  rw [← (List.cons.inj heq).1, Email.isAlpha_toLower, halpha] at hd
  cases hd

theorem IsNumeric.ne_nil (h : IsNumeric cs) : cs ≠ [] := by
  cases h with
  | infinity => exact List.append_ne_nil_of_right_ne_nil _ (List.cons_ne_nil _ _)
  | decimal _ hm =>
    obtain ⟨c, cs, rfl, -⟩ := hm.head
    exact List.append_ne_nil_of_right_ne_nil _ (List.cons_ne_nil _ _)

theorem plainDigit_of_isDigit {c : Char} (h : c.isDigit = true) : plainDigit c = c := by
  obtain ⟨hlow, hhigh⟩ : 48 ≤ c.toNat ∧ c.toNat ≤ 57 := Char.isDigit_iff_toNat.1 h
  have hcode : 48 + (c.toNat - 48) = c.toNat := by omega
  unfold plainDigit
  rw [Text.decimalDigit?_of_isDigit h]
  dsimp only
  rw [hcode, Char.ofNat_toNat]

def IsClean (c : Char) : Prop := plainDigit c = c ∧ Text.isBlank c = false ∧ c ≠ '_'

instance (c : Char) : Decidable (IsClean c) := inferInstanceAs (Decidable (_ ∧ _ ∧ _))

theorem IsNumericChar.isClean {c : Char} (h : IsNumericChar c) : IsClean c := by
  have hothers : ∀ d ∈ ['+', '-', '.', 'e', 'E'], IsClean d :=
    List.forall_iff_forall_mem.1 (by decide)
  rcases h with hdigit | hmem
  · refine ⟨plainDigit_of_isDigit hdigit, Text.isBlank_of_isDigit hdigit, ?_⟩
    rintro rfl
    cases hdigit
  · exact hothers c hmem

theorem IsNumeric.isClean (h : IsNumeric cs) : ∀ c ∈ cs, IsClean c := by
  have hletters : ∀ d ∈ infinityWord, IsClean d := List.forall_iff_forall_mem.1 (by decide)
  rcases h.chars with ⟨sign, hsign, rfl⟩ | hchars
  · rw [List.forall_mem_append]
    exact ⟨fun c hc => (hsign.chars c hc).isClean, hletters⟩
  · exact fun c hc => (hchars c hc).isClean

theorem dropLowLines_eq {digit : Char → Bool} (h : ∀ c ∈ cs, c ≠ '_') (before : Option Char) :
    dropLowLines digit before cs = some cs := by
  induction cs generalizing before with
  | nil => rfl
  | cons c cs ih =>
    rw [List.forall_mem_cons] at h
    rw [dropLowLines, if_neg (beq_eq_false_iff_ne.2 h.1 ▸ Bool.false_ne_true), ih h.2]
    rfl

/-- A number in text is read the same by the rules for settings, which have nothing to clean up. -/
theorem readLoose?_eq (h : IsNumeric cs) : readLoose? cs = readNumber? cs := by
  have htrim : Text.trim cs = cs := by
    have happend :=
      @Text.trim_append [] cs [] (by simp) (by simp) (fun c hc => (h.isClean c hc).2.1)
      h.ne_nil
    rwa [List.nil_append, List.append_nil] at happend
  have hdigits : cs.map plainDigit = cs :=
    (List.map_congr_left fun c hc => (h.isClean c hc).1).trans (List.map_id cs)
  have hlines : dropLowLines Char.isDigit none cs = some cs :=
    dropLowLines_eq (fun c hc => (h.isClean c hc).2.2) none
  unfold readLoose? readNumber?
  rw [htrim, hdigits, hlines]
  cases h with
  | infinity hsign =>
    have hword : String.ofList (infinityWord.map Char.toLower) = "infinity" := by decide
    simp only [bind, Option.bind_some, readSign_infinity hsign, hword, BEq.rfl, Bool.or_true,
      if_true, pure]
  | @decimal sign m e hsign hm he =>
    have hinfinity : (m ++ e == infinityWord) = false := by
      obtain ⟨c, rest, rfl, halpha⟩ := hm.head_not_alpha
      rw [beq_eq_false_iff_ne]
      intro heq
      rw [(List.cons.inj heq).1] at halpha
      cases halpha
    have hinf := hm.not_spells e (show "inf".toList = 'i' :: _ from rfl) rfl
    have hlong := hm.not_spells e (show "infinity".toList = 'i' :: _ from rfl) rfl
    have hnan := hm.not_spells e (show "nan".toList = 'n' :: _ from rfl) rfl
    simp only [bind, Option.bind_some, hm.readSign_eq hsign, hinf, hlong, hnan, hinfinity,
      Bool.or_self, Bool.false_eq_true, if_false]

end

end Number

namespace Value
open Number NumberPattern

/-- The number of a text is found without a fault and is never undefined. There is one exactly where
the text follows the grammar once blanks have been cut off, which is where the pattern matches it
from end to end, and it is the one that the rules for settings read there. Apart from Infinity there
are then none but ASCII digits, signs, points and marks of an exponent. -/
theorem toNumber_text (names : Pattern.Names) (s : String) :
    ∃ x p, (Value.text s).toNumber = .ok x ∧ Pattern.read names true patternText.toList = .ok p ∧
      x ≠ some .nan ∧
      (x.isSome = true ↔ IsNumeric (Text.trim s.toList)) ∧
      (x.isSome = true ↔ p.fills (Text.trim s.toList) = true) ∧
      (x.isSome = true → readLoose? (Text.trim s.toList) = x) ∧
      (x.isSome = true →
        (∃ sign, IsSign sign ∧ Text.trim s.toList = sign ++ infinityWord) ∨
          ∀ c ∈ Text.trim s.toList, IsNumericChar c) := by
  have hnumeric := @isSome_readNumber?_iff (Text.trim s.toList)
  refine ⟨_, pattern, rfl, read_patternText, fun hnan => ?_, hnumeric,
    hnumeric.trans fills_pattern_iff.symm, fun h => readLoose?_eq (hnumeric.1 h),
    fun h => (hnumeric.1 h).chars⟩
  cases isNan_of_readNumber? hnan

/-- Spellings that the rules for settings take and that are no numbers in text. -/
example : ∀ s ∈ ["1_000", "inf", "-INFINITY", "NaN", "\u0661"],
    (readLoose? s.toList).isSome = true ∧ readNumber? s.toList = none := by
  decide +kernel

end Value

end Intake
