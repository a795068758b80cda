import Intake.Json.Printer
import Intake.Json.Reader
import Mathlib.Tactic.SplitIfs

/-! Texts in JSON. Every character is written as itself or as an escape, which is read as the code
units of the character; the units of a text give the text again. -/

namespace Intake.Json

theorem hexDigit?_hexDigit {d : Nat} (h : d < 16) : hexDigit? (Text.hexDigit d) = some d := by
  revert d
  decide

theorem hex4?_hex {n : Nat} (h : n < 0x10000) : ∃ a b c d, Text.hex 4 n = [a, b, c, d] ∧
    hex4? a b c d = some n := by
  refine ⟨Text.hexDigit (n / 16 / 16 / 16 % 16), Text.hexDigit (n / 16 / 16 % 16),
    Text.hexDigit (n / 16 % 16), Text.hexDigit (n % 16), rfl, ?_⟩
  have hmod : ∀ k : Nat, k % 16 < 16 := fun k => Nat.mod_lt k (by decide)
  unfold hex4?
  simp only [hexDigit?_hexDigit (hmod _), Option.bind_eq_bind, Option.bind_some, Option.pure_def,
    Option.some.injEq]
  omega

def ReadsUnits (cs : List Char) (us : List Nat) : Prop :=
  ∀ start rest us' r, rest ≠ [] → readUnits start rest = .ok (us', r) →
    readUnits start (cs ++ rest) = .ok (us ++ us', r)

theorem readsUnits_unicode {n : Nat} (h : n < 0x10000) :
    ReadsUnits ('\\' :: 'u' :: Text.hex 4 n) [n] := by
  intro start rest us r hne hrest
  obtain ⟨a, b, c, d, hhex, hread⟩ := hex4?_hex h
  cases rest with
  | nil => exact absurd rfl hne
  | cons e rest =>
    rw [hhex]
    show readUnits start ('\\' :: 'u' :: a :: b :: c :: d :: e :: rest) = _
    rw [readUnits, hread]
    simp only [hrest]
    rfl

theorem readsUnits_named {c e : Char} (h : namedEscape? e = some c) :
    ReadsUnits ['\\', e] [c.toNat] := by
  intro start rest us r hne hrest
  have hu : e ≠ 'u' := by
    rintro rfl
    cases h
  show readUnits start ('\\' :: e :: rest) = _
  rw [readUnits, h]
  · simp only [hrest]
    rfl
  · exact hu

theorem readsUnits_plain {c : Char} (h : 32 ≤ c.toNat) (hquote : c ≠ '"') (hback : c ≠ '\\') :
    ReadsUnits [c] [c.toNat] := by
  intro start rest us r hne hrest
  show readUnits start (c :: rest) = _
  rw [readUnits, if_neg (Nat.not_lt.2 h)]
  · simp only [hrest]
    rfl
  · exact hquote
  · exact fun heq _ => hback heq
  · exact fun _ heq _ => hback heq
  · exact fun _ _ heq _ => hback heq

theorem readsUnits_nil : ReadsUnits [] [] := fun _ _ _ _ _ h => h

theorem ReadsUnits.append {cs ds : List Char} {us vs : List Nat} (h : ReadsUnits cs us)
    (h' : ReadsUnits ds vs) : ReadsUnits (cs ++ ds) (us ++ vs) := by
  intro start rest ws r hne hrest
  rw [List.append_assoc, List.append_assoc]
  exact h start _ _ r (List.append_ne_nil_of_right_ne_nil ds hne) (h' start rest ws r hne hrest)

theorem readsUnits_escapes {us : List Nat} (h : ∀ u ∈ us, u < 0x10000) :
    ReadsUnits (us.flatMap fun n => '\\' :: 'u' :: Text.hex 4 n) us := by
  induction us with
  | nil => exact readsUnits_nil
  | cons u us ih =>
    rw [List.forall_mem_cons] at h
    exact (readsUnits_unicode h.1).append (ih h.2)

theorem toNat_lt (c : Char) : c.toNat < 0xD800 ∨ 0xDFFF < c.toNat ∧ c.toNat < 0x110000 := c.valid

theorem units_lt (c : Char) : ∀ u ∈ units c.toNat, u < 0x10000 := by
  have hvalid := toNat_lt c
  unfold units
  split
  · rintro u hu
    obtain rfl := List.mem_singleton.1 hu
    assumption
  · simp only [List.mem_cons, List.not_mem_nil, or_false, forall_eq_or_imp, forall_eq]
    omega

theorem readsUnits_escapedChar (c : Char) : ReadsUnits (escapedChar c) (units c.toNat) := by
  unfold escapedChar
  split_ifs with hquote hline hreturn htab hback hfeed hplain
  · have hc : namedEscape? c = some c ∧ units c.toNat = [c.toNat] := by
      rw [Bool.or_eq_true, beq_iff_eq, beq_iff_eq] at hquote
      rcases hquote with rfl | rfl <;> exact ⟨rfl, rfl⟩
    rw [hc.2]
    exact readsUnits_named hc.1
  · obtain rfl := beq_iff_eq.1 hline
    exact readsUnits_named (e := 'n') rfl
  · obtain rfl := beq_iff_eq.1 hreturn
    exact readsUnits_named (e := 'r') rfl
  · obtain rfl := beq_iff_eq.1 htab
    exact readsUnits_named (e := 't') rfl
  · obtain rfl := beq_iff_eq.1 hback
    exact readsUnits_named (e := 'b') rfl
  · obtain rfl := beq_iff_eq.1 hfeed
    exact readsUnits_named (e := 'f') rfl
  · rw [Bool.and_eq_true, decide_eq_true_eq, decide_eq_true_eq] at hplain
    rw [Bool.or_eq_true, beq_iff_eq, beq_iff_eq, not_or] at hquote
    have hone : units c.toNat = [c.toNat] := if_pos (by omega)
    rw [hone]
    exact readsUnits_plain hplain.1 hquote.1 hquote.2
  · exact readsUnits_escapes (units_lt c)

@[simp, grind =] theorem scalar_toNat (c : Char) : Text.scalar c.toNat = c := by
  have hvalid : c.toNat.isValidChar := c.valid
  unfold Text.scalar
  rw [if_pos hvalid, Char.ofNat_toNat]

@[simp] theorem joinSurrogates_units (c : Char) (us : List Nat) :
    Text.joinSurrogates (units c.toNat ++ us) = c :: Text.joinSurrogates us := by
  have hvalid := toNat_lt c
  unfold units
  split
  · cases us with
    | nil =>
      show [Text.scalar c.toNat] = [c]
      rw [scalar_toNat]
    | cons u us =>
      have halone : (0xD800 ≤ c.toNat && c.toNat < 0xDC00 && 0xDC00 ≤ u && u < 0xE000) = false := by
        simp only [Bool.and_eq_false_iff, decide_eq_false_iff_not]
        omega
      show Text.joinSurrogates (c.toNat :: u :: us) = _
      rw [Text.joinSurrogates, halone, if_neg Bool.false_ne_true, scalar_toNat]
  · have hpair : (0xD800 ≤ 0xD800 + (c.toNat - 0x10000) / 1024 &&
        0xD800 + (c.toNat - 0x10000) / 1024 < 0xDC00 &&
        0xDC00 ≤ 0xDC00 + (c.toNat - 0x10000) % 1024 &&
        0xDC00 + (c.toNat - 0x10000) % 1024 < 0xE000) = true := by
      simp only [Bool.and_eq_true, decide_eq_true_eq]
      omega
    have hnumber : 0x10000 + (0xD800 + (c.toNat - 0x10000) / 1024 - 0xD800) * 1024 +
        (0xDC00 + (c.toNat - 0x10000) % 1024 - 0xDC00) = c.toNat := by omega
    show Text.joinSurrogates ((0xD800 + _) :: (0xDC00 + _) :: us) = _
    rw [Text.joinSurrogates, if_pos hpair, hnumber, scalar_toNat]

@[simp] theorem joinSurrogates_flatMap (cs : List Char) :
    Text.joinSurrogates (cs.flatMap fun c => units c.toNat) = cs := by
  induction cs with
  | nil => rfl
  | cons c cs ih => rw [List.flatMap_cons, joinSurrogates_units, ih]

theorem readsUnits_flatMap (cs : List Char) :
    ReadsUnits (cs.flatMap escapedChar) (cs.flatMap fun c => units c.toNat) := by
  induction cs with
  | nil => exact readsUnits_nil
  | cons c cs ih => exact (readsUnits_escapedChar c).append ih

@[simp] theorem readText_escaped (start : List Char) (s : String) (rest : List Char) :
    readText start (s.toList.flatMap escapedChar ++ '"' :: rest) = .ok (s, rest) := by
  have hunits : readUnits start (s.toList.flatMap escapedChar ++ '"' :: rest) =
      .ok (s.toList.flatMap fun c => units c.toNat, rest) := by
    have hclose : readUnits start ('"' :: rest) = .ok ([], rest) := by rw [readUnits]
    have hread := readsUnits_flatMap s.toList start _ _ rest (List.cons_ne_nil _ _) hclose
    rwa [List.append_nil] at hread
  unfold readText
  rw [hunits]
  show Except.ok (String.ofList (Text.joinSurrogates _), rest) = _
  rw [joinSurrogates_flatMap, String.ofList_toList]

end Intake.Json
