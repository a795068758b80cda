import Intake.Proofs.Aliases
import Mathlib.Data.List.TakeWhile

/-! Normal forms of addresses. What has been put into lower case stays as it is, so that a normal
form has neither a letter to change nor a tag to drop nor a point to take out, and normalizing it
again gives it back. -/

namespace Intake

namespace Text

def CaseRun.misses (r s : CaseRun) : Bool :=
  (r.image + (r.last - r.first)).blt s.first || s.last.blt r.image ||
    s.step == 2 && (r.step == 2 || r.first == r.last) && (r.image + s.first) % 2 == 1

theorem lowerRuns_miss : (lowerRuns.all fun r => lowerRuns.all r.misses) = true := by
  decide +kernel

theorem not_covers_of_misses {r s : CaseRun} (h : r.misses s = true) {c : Nat}
    (hc : r.covers c = true) : s.covers (r.image + (c - r.first)) = false := by
  simp only [CaseRun.covers, Bool.and_eq_true, decide_eq_true_eq, beq_iff_eq] at hc
  simp only [CaseRun.misses, Bool.or_eq_true, Bool.and_eq_true, Nat.blt_eq, beq_iff_eq] at h
  obtain ⟨⟨hfirst, hlast⟩, hstep⟩ := hc
  rw [← Bool.not_eq_true]
  simp only [CaseRun.covers, Bool.and_eq_true, decide_eq_true_eq, beq_iff_eq]
  rintro ⟨⟨hlow, hhigh⟩, hmod⟩
  rcases h with (hbelow | habove) | ⟨⟨htwo, hsteps | hsingle⟩, hodd⟩
  · omega
  · omega
  · rw [hsteps] at hstep
    rw [htwo] at hmod
    omega
  · rw [htwo] at hmod
    omega

def IsLower (c : Char) : Prop := lowerChar c = c

instance (c : Char) : Decidable (IsLower c) := inferInstanceAs (Decidable (_ = _))

theorem isLower_of_not_covered {c : Char} (h : ∀ r ∈ lowerRuns, r.covers c.toNat = false) :
    IsLower c := by
  unfold IsLower lowerChar
  split_ifs with hascii
  · have hletters : CaseRun.covers ⟨65, 90, 1, 97⟩ c.toNat = false := h _ List.mem_cons_self
    have hupper : ¬ (65 ≤ c.toNat ∧ c.toNat ≤ 90) := by
      simpa [CaseRun.covers, Nat.mod_one] using hletters
    rw [← Char.toNat_inj, Email.toLower_toNat, if_neg hupper]
  · have hnone : lowerRuns.find? (·.covers c.toNat) = none := by
      rw [List.find?_eq_none]
      exact fun r hr => Bool.not_eq_true _ ▸ h r hr
    rw [hnone]

theorem isLower_lowerChar (c : Char) : IsLower (lowerChar c) := by
  unfold lowerChar
  split_ifs with hascii
  · unfold IsLower lowerChar
    have hlower := Email.toLower_toNat c
    have hagain := Email.toLower_toNat c.toLower
    have hsmall : c.toLower.toNat < 128 := by
      rw [hlower]
      split_ifs <;> omega
    rw [if_pos hsmall, ← Char.toNat_inj, hagain, if_neg]
    rw [hlower]
    split_ifs <;> omega
  · cases hrun : lowerRuns.find? (·.covers c.toNat) with
    | none =>
      rw [List.find?_eq_none] at hrun
      exact isLower_of_not_covered fun r hr => Bool.eq_false_iff.2 (hrun r hr)
    | some r =>
      have hcovers := List.find?_some hrun
      have hr := List.mem_of_find?_eq_some hrun
      dsimp only
      by_cases hvalid : (r.image + (c.toNat - r.first)).isValidChar
      · apply isLower_of_not_covered
        intro s hs
        have hmiss : r.misses s = true :=
          List.all_eq_true.1 (List.all_eq_true.1 lowerRuns_miss r hr) s hs
        have himage : (Char.ofNat (r.image + (c.toNat - r.first))).toNat =
            r.image + (c.toNat - r.first) := by
          rw [Char.ofNat, dif_pos hvalid]
          rfl
        rw [himage]
        exact not_covers_of_misses hmiss hcovers
      · rw [Char.ofNat, dif_neg hvalid]
        rfl

theorem forall_mem_lowerIn (before : List Char) (c : Char) (after : List Char) :
    ∀ d ∈ lowerIn before c after, IsLower d := by
  have hsigmas : IsLower 'ς' ∧ IsLower 'σ' := by decide
  have hdotted : IsLower 'i' ∧ IsLower '\u0307' := by decide
  unfold lowerIn
  split_ifs
  · exact List.forall_mem_singleton.2 hsigmas.1
  · exact List.forall_mem_singleton.2 hsigmas.2
  · exact List.forall_mem_cons.2 ⟨hdotted.1, List.forall_mem_singleton.2 hdotted.2⟩
  · exact List.forall_mem_singleton.2 (isLower_lowerChar c)

theorem forall_mem_lowerChars (cs : List Char) : ∀ c ∈ lowerChars cs, IsLower c := by
  have hfrom : ∀ before : List Char, ∀ c ∈ lowerFrom before cs, IsLower c := by
    induction cs with
    | nil => exact fun before => List.forall_mem_nil _
    | cons c cs ih =>
      intro before
      rw [lowerFrom, List.forall_mem_append]
      exact ⟨forall_mem_lowerIn before c cs, ih (c :: before)⟩
  exact hfrom []

theorem lowerIn_of_isLower {c : Char} (h : IsLower c) (before after : List Char) :
    lowerIn before c after = [c] := by
  have hsigma : c ≠ 'Σ' := by
    rintro rfl
    exact absurd h (by decide)
  have hdotted : c ≠ 'İ' := by
    rintro rfl
    exact absurd h (by decide)
  simp only [lowerIn, beq_false_of_ne hsigma, beq_false_of_ne hdotted, Bool.false_eq_true, if_false]
  exact congrArg (· :: []) h

@[simp]
theorem lowerChars_eq_self_iff {cs : List Char} : lowerChars cs = cs ↔ ∀ c ∈ cs, IsLower c := by
  constructor
  · intro h
    rw [← h]
    exact forall_mem_lowerChars cs
  · intro h
    have hfrom : ∀ before : List Char, lowerFrom before cs = cs := by
      induction cs with
      | nil => exact fun before => rfl
      | cons c cs ih =>
        intro before
        rw [List.forall_mem_cons] at h
        rw [lowerFrom, lowerIn_of_isLower h.1, ih h.2]
        rfl
    exact hfrom []

end Text

namespace Email

/-- A normal form by its name and its domain: all in lower case, without a tag, and neither with
points where they are ignored nor with another name of the provider that ignores them. -/
structure IsNormalOf (cs name domain : List Char) : Prop where
  whole : cs = name ++ '@' :: domain
  lower : ∀ c ∈ cs, Text.IsLower c
  no_at : '@' ∉ name
  untagged : '+' ∉ name
  pointless : domain = "gmail.com".toList → '.' ∉ name
  canonical : domain ≠ "googlemail.com".toList

def IsNormal (cs : List Char) : Prop := ∃ name domain, IsNormalOf cs name domain

theorem normalizeChars_eq (cs : List Char) :
    normalizeChars cs = normalOf ((Text.lowerChars cs).takeWhile (· != '@'))
      (((Text.lowerChars cs).dropWhile (· != '@')).drop 1) := rfl

theorem canonicalDomain?_eq_some {domain canonical : List Char}
    (h : canonicalDomain? domain = some canonical) : canonical = "gmail.com".toList := by
  unfold canonicalDomain? at h
  split_ifs at h
  exact (Option.some.inj h).symm

theorem canonicalDomain?_eq_none {domain : List Char} (h : canonicalDomain? domain = none) :
    domain ≠ "gmail.com".toList ∧ domain ≠ "googlemail.com".toList := by
  unfold canonicalDomain? at h
  split_ifs at h with hnone
  simpa only [Bool.or_eq_true, beq_iff_eq, not_or] using hnone

theorem isNormal_normalOf {name domain : List Char} (hname : ∀ c ∈ name, Text.IsLower c)
    (hdomain : ∀ c ∈ domain, Text.IsLower c) (hat : '@' ∉ name) :
    IsNormal (normalOf name domain) := by
  have hat' : Text.IsLower '@' := by decide
  have hgmail : ∀ c ∈ "gmail.com".toList, Text.IsLower c :=
    Text.lowerChars_eq_self_iff.1 (by decide)
  have hsub : (name.takeWhile (· != '+')).Sublist name := List.takeWhile_sublist _
  have huntagged : '+' ∉ name.takeWhile (· != '+') :=
    fun hmem => absurd (List.mem_takeWhile_imp hmem) (by decide)
  unfold normalOf
  cases hcanonical : canonicalDomain? domain with
  | some canonical =>
    obtain rfl := canonicalDomain?_eq_some hcanonical
    have hsub' := (List.filter_sublist (p := (· != '.'))).trans hsub
    refine ⟨_, _, rfl, ?_, fun hmem => hat (hsub'.subset hmem), ?_, ?_, by decide⟩
    · rw [List.forall_mem_append, List.forall_mem_cons]
      exact ⟨fun c hc => hname c (hsub'.subset hc), hat', hgmail⟩
    · exact fun hmem => huntagged (List.mem_filter.1 hmem).1
    · intro _ hmem
      simpa using (List.mem_filter.1 hmem).2
  | none =>
    obtain ⟨hother, hgooglemail⟩ := canonicalDomain?_eq_none hcanonical
    refine ⟨_, _, rfl, ?_, fun hmem => hat (hsub.subset hmem), huntagged, ?_, hgooglemail⟩
    · rw [List.forall_mem_append, List.forall_mem_cons]
      exact ⟨fun c hc => hname c (hsub.subset hc), hat', hdomain⟩
    · exact fun heq => absurd heq hother

theorem isNormal_normalizeChars (cs : List Char) : IsNormal (normalizeChars cs) := by
  have hlower := Text.forall_mem_lowerChars cs
  rw [normalizeChars_eq]
  apply isNormal_normalOf
  · exact fun c hc => hlower c ((List.takeWhile_sublist _).subset hc)
  · intro c hc
    exact hlower c ((List.dropWhile_sublist _).subset ((List.drop_sublist 1 _).subset hc))
  · exact fun hmem => absurd (List.mem_takeWhile_imp hmem) (by decide)

section
variable {cs name domain : List Char}

theorem IsNormalOf.canonicalDomain? (h : IsNormalOf cs name domain) :
    canonicalDomain? domain = none ∨
      domain = "gmail.com".toList ∧ canonicalDomain? domain = some domain := by
  cases hcanonical : Email.canonicalDomain? domain with
  | none => exact .inl rfl
  | some canonical =>
    have hignores := hcanonical
    unfold Email.canonicalDomain? at hignores
    split_ifs at hignores with hdomain
    rw [Bool.or_eq_true, beq_iff_eq, beq_iff_eq] at hdomain
    have hgmail := hdomain.resolve_right h.canonical
    obtain rfl := canonicalDomain?_eq_some hcanonical
    exact .inr ⟨hgmail, congrArg some hgmail.symm⟩

theorem IsNormalOf.normalOf_eq (h : IsNormalOf cs name domain) :
    normalOf name domain = name ++ '@' :: domain := by
  have huntagged : name.takeWhile (· != '+') = name := by
    rw [List.takeWhile_eq_self_iff]
    intro c hc
    rw [bne_iff_ne]
    rintro rfl
    exact h.untagged hc
  unfold normalOf
  rw [huntagged]
  rcases h.canonicalDomain? with hnone | ⟨hgmail, hsome⟩
  · rw [hnone]
  · have hpointless : name.filter (· != '.') = name := by
      rw [List.filter_eq_self]
      intro c hc
      rw [bne_iff_ne]
      rintro rfl
      exact h.pointless hgmail hc
    rw [hsome]
    dsimp only
    rw [hpointless]

theorem IsNormalOf.normalizeChars_eq_self (h : IsNormalOf cs name domain) :
    normalizeChars cs = cs := by
  have hname : ∀ c ∈ name, (c != '@') = true := by
    intro c hc
    rw [bne_iff_ne]
    rintro rfl
    exact h.no_at hc
  have htake : ('@' :: domain).takeWhile (· != '@') = [] := List.takeWhile_cons_of_neg (by decide)
  have hdrop : ('@' :: domain).dropWhile (· != '@') = '@' :: domain :=
    List.dropWhile_cons_of_neg (by decide)
  rw [normalizeChars_eq, Text.lowerChars_eq_self_iff.2 h.lower, h.whole,
    List.takeWhile_append_of_pos hname, List.dropWhile_append_of_pos hname, htake, hdrop,
    List.append_nil, List.drop_one, List.tail_cons]
  exact h.normalOf_eq

end

@[simp]
theorem normalizeChars_eq_self_iff {cs : List Char} : normalizeChars cs = cs ↔ IsNormal cs := by
  constructor
  · intro h
    rw [← h]
    exact isNormal_normalizeChars cs
  · rintro ⟨name, domain, h⟩
    exact h.normalizeChars_eq_self

theorem normalizeValue_text {s : String} (h : s ≠ "") :
    normalizeValue (.text s) = .ok (some (String.ofList (normalizeChars s.toList))) := by
  have htruthy : (Value.text s).truthy = true := bne_iff_ne.2 h
  unfold normalizeValue normalize?
  simp only [htruthy, beq_false_of_ne h, Bool.not_true, Bool.false_eq_true, if_false]

theorem IsNormal.ne_empty {s : String} (h : IsNormal s.toList) : s ≠ "" := by
  obtain ⟨name, domain, h⟩ := h
  rintro rfl
  exact absurd h.whole (by simp)

@[simp] theorem normalizeValue_eq_self_iff {s : String} :
    normalizeValue (.text s) = .ok (some s) ↔ IsNormal s.toList := by
  by_cases hempty : s = ""
  · subst hempty
    exact iff_of_false nofun fun h => h.ne_empty rfl
  · rw [normalizeValue_text hempty, Except.ok.injEq, Option.some.injEq, ← String.toList_inj,
      String.toList_ofList, normalizeChars_eq_self_iff]

/-- Every text but the empty one has a normal form, and the normal form of that is the same. The
texts that are their own normal forms are those all in lower case with a name that has no tag before
their first at sign, and with neither points nor another name of the provider that ignores them. -/
theorem normalizeValue_idempotent {s : String} (h : s ≠ "") :
    ∃ t, normalizeValue (.text s) = .ok (some t) ∧ normalizeValue (.text t) = .ok (some t) ∧
      IsNormal t.toList ∧ ∀ u, normalizeValue (.text u) = .ok (some u) ↔ IsNormal u.toList := by
  have hnormal : IsNormal (String.ofList (normalizeChars s.toList)).toList := by
    rw [String.toList_ofList]
    exact isNormal_normalizeChars s.toList
  exact ⟨_, normalizeValue_text h, normalizeValue_eq_self_iff.2 hnormal, hnormal,
    fun u => normalizeValue_eq_self_iff⟩

/-- Capitals beyond ASCII, points, two tags and the provider's other name. -/
theorem normalizeValue_idempotent_tagged :
    "JO.É+x+y@GoogleMail.com" ≠ "" ∧
      normalizeValue (.text "JO.É+x+y@GoogleMail.com") = .ok (some "joé@gmail.com") ∧
      normalizeValue (.text "joé@gmail.com") = .ok (some "joé@gmail.com") := by
  have hnonempty : "JO.É+x+y@GoogleMail.com" ≠ "" := by decide
  have hnormal : normalizeValue (.text "JO.É+x+y@GoogleMail.com") = .ok (some "joé@gmail.com") := by
    rfl
  obtain ⟨t, ht, hagain, -⟩ := normalizeValue_idempotent hnonempty
  rw [hnormal] at ht
  obtain rfl := Option.some.inj (Except.ok.inj ht)
  exact ⟨hnonempty, hnormal, hagain⟩

end Email

end Intake
