import Intake.Proofs.Addresses
import Mathlib.Logic.Relation

/-! Aliases. An address keeps its normal form when letters change case, when a tag is appended to
its name and, with a provider that ignores points, when points come and go in its name or the
provider is called by its other name. Restrictions see the normal form alone, so that they treat
all aliases of an address alike. -/

namespace Intake

variable {names : Pattern.Names}

namespace Email

def IgnoresPoints (domain : List Char) : Prop :=
  domain.map Char.toLower = "gmail.com".toList ∨ domain.map Char.toLower = "googlemail.com".toList

/-- One change to the spelling of an address: letters of another case, a tag after the name, other
points in a name where they are ignored, or another name of the provider that ignores them. -/
inductive AliasStep : List Char → List Char → Prop
  | letters {cs ds : List Char} (h : ds.map Char.toLower = cs.map Char.toLower) : AliasStep cs ds
  | tag {name domain : List Char} (tag : List Char) (h : ∀ c ∈ tag, isLocalChar c = true) :
    AliasStep (name ++ '@' :: domain) (name ++ '+' :: tag ++ '@' :: domain)
  | points {name name' domain : List Char} (hdomain : IgnoresPoints domain)
    (h : name'.filter (· != '.') = name.filter (· != '.')) (hne : name' ≠ []) :
    AliasStep (name ++ '@' :: domain) (name' ++ '@' :: domain)
  | provider {name domain domain' : List Char} (h : IgnoresPoints domain)
    (h' : IgnoresPoints domain') : AliasStep (name ++ '@' :: domain) (name ++ '@' :: domain')

theorem toLower_toNat (c : Char) :
    c.toLower.toNat = if 65 ≤ c.toNat ∧ c.toNat ≤ 90 then c.toNat + 32 else c.toNat := by
  have hupper : (c.val ≥ 'A'.val ∧ c.val ≤ 'Z'.val) ↔ 65 ≤ c.toNat ∧ c.toNat ≤ 90 := by
    simp [UInt32.le_iff_toNat_le]
  by_cases h : 65 ≤ c.toNat ∧ c.toNat ≤ 90
  · have hlower : c.toLower = _ := dif_pos (hupper.2 h)
    have hgap : ('a'.val - 'A'.val).toNat = 32 := by decide
    have hsum : (c.val + ('a'.val - 'A'.val)).toNat = c.toNat + 32 := by
      have hc : c.val.toNat = c.toNat := rfl
      rw [UInt32.toNat_add, hgap, hc, Nat.mod_eq_of_lt (by omega)]
    rw [if_pos h, hlower]
    exact hsum
  · have hlower : c.toLower = c := dif_neg (hupper.not.2 h)
    rw [if_neg h, hlower]

theorem toLower_eq_iff {a : Char} (ha : a.isAlpha = false) {c : Char} : c.toLower = a ↔ c = a := by
  rw [← Bool.not_eq_true, isAlpha_iff_toNat] at ha
  rw [← Char.toNat_inj, ← Char.toNat_inj, toLower_toNat]
  split_ifs <;> omega

@[simp] theorem isAlpha_toLower (c : Char) : c.toLower.isAlpha = c.isAlpha := by
  rw [Bool.eq_iff_iff, isAlpha_iff_toNat, isAlpha_iff_toNat, toLower_toNat]
  split_ifs <;> omega

@[simp] theorem isAlphanum_toLower (c : Char) : c.toLower.isAlphanum = c.isAlphanum := by
  rw [Bool.eq_iff_iff, isAlphanum_iff_toNat, isAlphanum_iff_toNat, toLower_toNat]
  split_ifs <;> omega

theorem toLower_beq {a : Char} (ha : a.isAlpha = false) (c : Char) :
    (c.toLower == a) = (c == a) := by
  rw [Bool.eq_iff_iff, beq_iff_eq, beq_iff_eq, toLower_eq_iff ha]

@[simp] theorem isLocalChar_toLower (c : Char) : isLocalChar c.toLower = isLocalChar c := by
  simp only [isLocalChar, isAlphanum_toLower, toLower_beq (a := '.') rfl,
    toLower_beq (a := '_') rfl,
    toLower_beq (a := '%') rfl, toLower_beq (a := '+') rfl, toLower_beq (a := '-') rfl]

@[simp] theorem isLabelChar_toLower (c : Char) : isLabelChar c.toLower = isLabelChar c := by
  simp only [isLabelChar, isAlphanum_toLower, toLower_beq (a := '-') rfl]

theorem splitOn_map_toLower {a : Char} (ha : a.isAlpha = false) (cs : List Char) :
    (cs.map Char.toLower).splitOn a = (cs.splitOn a).map (·.map Char.toLower) := by
  induction cs with
  | nil => rfl
  | cons c cs ih =>
    rw [List.map_cons, List.splitOn_cons_eq_if_modifyHead, List.splitOn_cons_eq_if_modifyHead,
      toLower_beq ha, ih]
    split
    · rfl
    · cases cs.splitOn a <;> rfl

@[simp]
theorem isLabel_map_toLower (cs : List Char) : isLabel (cs.map Char.toLower) = isLabel cs := by
  simp only [isLabel, List.isEmpty_map, List.all_map, Function.comp_def, isLabelChar_toLower]

@[simp] theorem isTopLabel_map_toLower (cs : List Char) :
    isTopLabel (cs.map Char.toLower) = isTopLabel cs := by
  simp only [isTopLabel, List.length_map, List.all_map, Function.comp_def, isAlpha_toLower]

@[simp]
theorem isDomain_map_toLower (cs : List Char) : isDomain (cs.map Char.toLower) = isDomain cs := by
  simp only [isDomain, splitAt_eq_splitOn, splitOn_map_toLower (a := '.') rfl, List.length_map,
    List.all_map, List.getLast?_map, Option.any_map, Function.comp_def, isLabel_map_toLower,
    isTopLabel_map_toLower]

@[simp] theorem isAddress_map_toLower (cs : List Char) :
    isAddress (cs.map Char.toLower) = isAddress cs := by
  unfold isAddress
  rw [splitAt_eq_splitOn, splitAt_eq_splitOn, splitOn_map_toLower (a := '@') rfl]
  rcases cs.splitOn '@' with _ | ⟨name, _ | ⟨domain, _ | ⟨_, _⟩⟩⟩
  · rfl
  · rfl
  · simp only [List.map_cons, List.map_nil, List.isEmpty_map, List.all_map, Function.comp_def,
      isLocalChar_toLower, isDomain_map_toLower]
  · rfl

theorem lowerChars_ascii {cs : List Char} (h : ∀ c ∈ cs, c.toNat < 128) :
    Text.lowerChars cs = cs.map Char.toLower := by
  have hfrom : ∀ before : List Char, Text.lowerFrom before cs = cs.map Char.toLower := by
    induction cs with
    | nil => exact fun before => rfl
    | cons c cs ih =>
      intro before
      rw [List.forall_mem_cons] at h
      have hlower : Text.lowerIn before c cs = [c.toLower] := by
        have hsigma : c ≠ 'Σ' := by rintro rfl; exact absurd h.1 (by decide)
        have hdotted : c ≠ 'İ' := by rintro rfl; exact absurd h.1 (by decide)
        simp [Text.lowerIn, Text.lowerChar, hsigma, hdotted, h.1]
      rw [Text.lowerFrom, hlower, ih h.2]
      rfl
  exact hfrom []

def normalOf (name domain : List Char) : List Char :=
  match canonicalDomain? domain with
  | some canonical => (name.takeWhile (· != '+')).filter (· != '.') ++ '@' :: canonical
  | none => name.takeWhile (· != '+') ++ '@' :: domain

theorem IsAddressOf.normalizeChars_eq {cs name domain : List Char}
    (h : IsAddressOf cs name domain) :
    normalizeChars cs = normalOf (name.map Char.toLower) (domain.map Char.toLower) := by
  have hlower : Text.lowerChars cs = name.map Char.toLower ++ '@' :: domain.map Char.toLower := by
    rw [lowerChars_ascii fun c hc => (h.ascii c hc).1, h.whole, List.map_append, List.map_cons]
    rfl
  have hname : ∀ c ∈ name.map Char.toLower, (c != '@') = true := by
    rw [List.forall_mem_map]
    intro c hc
    rw [bne_iff_ne, Ne, toLower_eq_iff rfl]
    rintro rfl
    exact absurd (h.name_all _ hc) (by decide)
  unfold normalizeChars normalOf
  dsimp only
  rw [hlower, List.takeWhile_append_of_pos hname, List.dropWhile_append_of_pos hname]
  cases hcanonical : canonicalDomain? (domain.map Char.toLower) <;> simp [hcanonical]

theorem takeWhile_append_cons {p : Char → Bool} {a : Char} (ha : p a = false) (xs ys : List Char) :
    (xs ++ a :: ys).takeWhile p = xs.takeWhile p := by
  induction xs with
  | nil => simp [ha]
  | cons x xs ih => rw [List.cons_append, List.takeWhile_cons, List.takeWhile_cons, ih]

theorem filter_takeWhile {p q : Char → Bool} (h : ∀ c, p c = false → q c = true) (cs : List Char) :
    (cs.takeWhile q).filter p = (cs.filter p).takeWhile q := by
  rw [List.takeWhile_filter]
  congr 2
  funext c
  cases hp : p c <;> simp [h, hp]

theorem normalOf_tag (name tag domain : List Char) :
    normalOf ((name ++ '+' :: tag).map Char.toLower) domain =
      normalOf (name.map Char.toLower) domain := by
  have htake : ((name ++ '+' :: tag).map Char.toLower).takeWhile (· != '+') =
      (name.map Char.toLower).takeWhile (· != '+') := by
    rw [List.map_append, List.map_cons]
    exact takeWhile_append_cons (by decide) _ _
  rw [normalOf, htake]
  rfl

theorem IgnoresPoints.canonicalDomain?_eq {domain : List Char} (h : IgnoresPoints domain) :
    canonicalDomain? (domain.map Char.toLower) = some "gmail.com".toList := by
  rcases h with h | h <;> rw [h] <;> rfl

theorem IgnoresPoints.isLabelled {domain : List Char} (h : IgnoresPoints domain) :
    IsLabelled domain := by
  rw [← isDomain_iff, ← isDomain_map_toLower]
  rcases h with h | h <;> rw [h] <;> decide

theorem normalOf_ignoring {name name' domain domain' : List Char} (hdomain : IgnoresPoints domain)
    (hdomain' : IgnoresPoints domain') (h : name'.filter (· != '.') = name.filter (· != '.')) :
    normalOf (name'.map Char.toLower) (domain'.map Char.toLower) =
      normalOf (name.map Char.toLower) (domain.map Char.toLower) := by
  have hpoint : ((· != '.') ∘ Char.toLower : Char → Bool) = (· != '.') := by
    funext c
    exact congrArg not (toLower_beq rfl c)
  have hfilter : ∀ cs : List Char, ((cs.map Char.toLower).takeWhile (· != '+')).filter (· != '.') =
      ((cs.filter (· != '.')).map Char.toLower).takeWhile (· != '+') := by
    intro cs
    rw [filter_takeWhile (by simp), List.filter_map, hpoint]
  rw [normalOf, normalOf, hdomain.canonicalDomain?_eq, hdomain'.canonicalDomain?_eq]
  dsimp only
  rw [hfilter, hfilter, h]

theorem isLocalChar_of_filter {name name' : List Char} (h : ∀ c ∈ name, isLocalChar c = true)
    (hfilter : name'.filter (· != '.') = name.filter (· != '.')) :
    ∀ c ∈ name', isLocalChar c = true := by
  intro c hc
  by_cases hpoint : c = '.'
  · rw [hpoint]
    rfl
  · have hmem : c ∈ name'.filter (· != '.') := List.mem_filter.2 ⟨hc, by simpa using hpoint⟩
    rw [hfilter] at hmem
    exact h c (List.mem_filter.1 hmem).1

theorem isAddressOf_of_isAddress {name domain : List Char}
    (h : isAddress (name ++ '@' :: domain) = true) :
    IsAddressOf (name ++ '@' :: domain) name domain := by
  obtain ⟨name', domain', h⟩ := isAddress_iff.1 h
  have hsplit := splitOn_eq_pair_iff.2 ⟨rfl, h.one_at⟩
  rw [splitOn_eq_pair_iff.2 ⟨h.whole, h.one_at⟩, List.cons.injEq, List.cons.injEq] at hsplit
  obtain ⟨rfl, rfl, -⟩ := hsplit
  exact h

theorem lowerChars_of_isAddress {cs : List Char} (h : isAddress cs = true) :
    Text.lowerChars cs = cs.map Char.toLower := by
  obtain ⟨name, domain, h⟩ := isAddress_iff.1 h
  exact lowerChars_ascii fun c hc => (h.ascii c hc).1

theorem IsAddressOf.exchange {cs name name' domain domain' : List Char}
    (h : IsAddressOf cs name domain) (hne : name' ≠ []) (hall : ∀ c ∈ name', isLocalChar c = true)
    (hlabelled : IsLabelled domain')
    (hnormal : normalOf (name'.map Char.toLower) (domain'.map Char.toLower) =
      normalOf (name.map Char.toLower) (domain.map Char.toLower)) :
    isAddress (name' ++ '@' :: domain') = true ∧
      normalizeChars (name' ++ '@' :: domain') = normalizeChars cs := by
  have hnew : IsAddressOf (name' ++ '@' :: domain') name' domain' :=
    isAddressOf_iff.2 ⟨⟨hne, hall⟩, hlabelled, rfl⟩
  exact ⟨isAddress_iff.2 ⟨name', domain', hnew⟩,
    by rw [hnew.normalizeChars_eq, h.normalizeChars_eq, hnormal]⟩

theorem AliasStep.preserves {cs ds : List Char} (h : AliasStep cs ds) (hcs : isAddress cs = true) :
    isAddress ds = true ∧ normalizeChars ds = normalizeChars cs := by
  cases h with
  | letters h =>
    have hds : isAddress ds = true := by rw [← isAddress_map_toLower, h, isAddress_map_toLower, hcs]
    refine ⟨hds, ?_⟩
    unfold normalizeChars
    rw [lowerChars_of_isAddress hds, lowerChars_of_isAddress hcs, h]
  | tag tag htag =>
    have hcs := isAddressOf_of_isAddress hcs
    refine hcs.exchange (by simp) ?_ hcs.labelled (normalOf_tag _ _ _)
    rw [List.forall_mem_append, List.forall_mem_cons]
    exact ⟨hcs.name_all, rfl, htag⟩
  | points hdomain hfilter hne =>
    have hcs := isAddressOf_of_isAddress hcs
    exact hcs.exchange hne (isLocalChar_of_filter hcs.name_all hfilter) hcs.labelled
      (normalOf_ignoring hdomain hdomain hfilter)
  | provider hdomain hdomain' =>
    have hcs := isAddressOf_of_isAddress hcs
    exact hcs.exchange hcs.name_ne hcs.name_all hdomain'.isLabelled
      (normalOf_ignoring hdomain hdomain' rfl)

/-- One address is an alias of another after any number of steps. -/
def IsAlias (cs ds : List Char) : Prop := Relation.ReflTransGen AliasStep cs ds

theorem IsAlias.preserves {cs ds : List Char} (h : IsAlias cs ds) (hcs : isAddress cs = true) :
    isAddress ds = true ∧ normalizeChars ds = normalizeChars cs := by
  induction h with
  | refl => exact ⟨hcs, rfl⟩
  | tail _ hstep ih =>
    obtain ⟨hds, hnormal⟩ := hstep.preserves ih.1
    exact ⟨hds, hnormal.trans ih.2⟩

theorem normalize?_eq {s : String} (h : isAddress s.toList = true) :
    normalize? s = some (String.ofList (normalizeChars s.toList)) := by
  rw [normalize?, if_neg]
  intro hempty
  rw [beq_iff_eq.1 hempty] at h
  exact absurd h (by decide)

end Email

namespace Check

@[simp] theorem map_addressMessages_eq_nil_iff {s : String} {restricted : Except Fault Bool} :
    addressMessages s true <$> restricted = .ok [] ↔ restricted = .ok false := by
  cases restricted with
  | error fault => simp
  | ok restricted => simp [Functor.map, Except.map]

@[simp] theorem map_addressMessages_eq_error_iff {s : String} {restricted : Except Fault Bool}
    {fault : Fault} :
    addressMessages s true <$> restricted = .error fault ↔ restricted = .error fault := by
  cases restricted <;> simp [Functor.map, Except.map]

theorem email_returns {patterns : List Value} (h : ∀ p ∈ patterns, p.IsText ∧ p.IsPattern names)
    (s : String) : ∃ messages, email names (.text s) (.list patterns) = .ok messages := by
  have hitems : (if (Value.list patterns).truthy then (Value.list patterns).items else pure []) =
      .ok patterns := by
    cases patterns <;> rfl
  cases hresult : email names (.text s) (.list patterns) with
  | ok messages => exact ⟨messages, rfl⟩
  | error fault =>
    obtain ⟨-, bs, hbs⟩ | hwritable :=
      (faults_restricted_iff patterns hitems fun p hp => (h p hp).2).1 ⟨fault, hresult⟩
    · obtain ⟨⟨text, htext⟩, -⟩ := h _ hbs
      cases htext
    · cases hwritable

/-- Restrictions treat an alias as they treat the address: either gets a message if the other
does, and a fault of a restriction comes up with both. With patterns of texts there is none. -/
theorem email_alias {s t : String} (hs : email names (.text s) .null = .ok [])
    (halias : Email.IsAlias s.toList t.toList) :
    (∀ restrictions,
      (email names (.text t) restrictions = .ok [] ↔ email names (.text s) restrictions = .ok []) ∧
      ∀ fault, email names (.text t) restrictions = .error fault ↔
        email names (.text s) restrictions = .error fault) ∧
    ∀ patterns : List Value, (∀ p ∈ patterns, p.IsText ∧ p.IsPattern names) →
      ∃ messages messages', email names (.text s) (.list patterns) = .ok messages ∧
        email names (.text t) (.list patterns) = .ok messages' := by
  have haddress : Email.isAddress s.toList = true := by
    rw [email_text_eq] at hs
    exact (addressMessages_eq_nil_iff.1 (Except.ok.inj hs)).1
  obtain ⟨haddress', hnormal⟩ := halias.preserves haddress
  have hnormal? : Email.normalize? t = Email.normalize? s := by
    rw [Email.normalize?_eq haddress, Email.normalize?_eq haddress', hnormal]
  refine ⟨fun restrictions => ?_, fun patterns hpatterns => ?_⟩
  · simp only [email_text_eq, haddress, haddress', hnormal?, map_addressMessages_eq_nil_iff,
      map_addressMessages_eq_error_iff, implies_true, and_self]
  · obtain ⟨messages, heq⟩ := email_returns hpatterns s
    obtain ⟨messages', heq'⟩ := email_returns hpatterns t
    exact ⟨messages, messages', heq, heq'⟩

/-- A point less, a tag, the provider's other name and letters of another case. -/
theorem email_alias_four_steps :
    email .none (.text "a.b@gmail.com") .null = .ok [] ∧
      Email.IsAlias "a.b@gmail.com".toList "AB+X@GoogleMail.com".toList ∧
      email .none (.text "AB+X@GoogleMail.com") (.list [.text "^ab@"]) ≠ .ok [] := by
  have haddress : Email.isAddress "a.b@gmail.com".toList = true := by decide +kernel
  have hs : email .none (.text "a.b@gmail.com") .null = .ok [] := by
    rw [email_text_eq, haddress]
    rfl
  have hgmail : Email.IgnoresPoints "gmail.com".toList := .inl (by decide +kernel)
  have hgooglemail : Email.IgnoresPoints "googlemail.com".toList := .inr (by decide +kernel)
  have hpoints : Email.AliasStep "a.b@gmail.com".toList "ab@gmail.com".toList :=
    @Email.AliasStep.points ['a', '.', 'b'] ['a', 'b'] _ hgmail (by decide) (by decide)
  have htag : Email.AliasStep "ab@gmail.com".toList "ab+x@gmail.com".toList :=
    @Email.AliasStep.tag ['a', 'b'] _ ['x'] (List.all_eq_true.1 rfl)
  have hprovider : Email.AliasStep "ab+x@gmail.com".toList "ab+x@googlemail.com".toList :=
    @Email.AliasStep.provider ['a', 'b', '+', 'x'] _ _ hgmail hgooglemail
  have hletters : Email.AliasStep "ab+x@googlemail.com".toList "AB+X@GoogleMail.com".toList :=
    .letters (by decide)
  have halias : Email.IsAlias "a.b@gmail.com".toList "AB+X@GoogleMail.com".toList :=
    .tail (.tail (.tail (.single hpoints) htag) hprovider) hletters
  have hrestricted :
    (email .none (.text "a.b@gmail.com") (.list [.text "^ab@"])).toOption ≠ some [] := by
    decide +kernel
  refine ⟨hs, halias, fun h => hrestricted ?_⟩
  rw [((email_alias hs halias).1 (.list [.text "^ab@"])).1.1 h]
  rfl

end Check

end Intake
