import Intake.Pattern.Search
import Mathlib.Computability.Language

/-! Searches and languages. A pattern that neither looks around nor refers back nor keeps its first
find has a language, and the search that goes back to earlier choices gets through it to a goal
exactly where the text goes on with one of its words from which the goal is reached. In how many
ways the word can be cut up, and which is tried first, makes no difference. -/

namespace Intake.Pattern

/-- The words that a pattern takes up. A pattern that looks at its surroundings has none of its own,
and neither has one whose words depend on what was found before. -/
def language : Pattern → Language Char
  | .empty => 1
  | .one c => {xs | ∃ x, c.holds x = true ∧ xs = [x]}
  | .any newlines => {xs | ∃ x, (newlines || x != '\n') = true ∧ xs = [x]}
  | .seq a b => language a * language b
  | .alt a b => language a + language b
  | .scope p => language p
  | .group _ p => language p
  | .repetition least greatest _ p =>
    {xs | ∃ n, least ≤ n ∧ (∀ m ∈ greatest, n ≤ m) ∧ xs ∈ language p ^ n}
  | _ => 0

def IsRegular : Pattern → Prop
  | .empty => True
  | .one _ => True
  | .any _ => True
  | .seq a b => IsRegular a ∧ IsRegular b
  | .alt a b => IsRegular a ∧ IsRegular b
  | .scope p => IsRegular p
  | .group _ p => IsRegular p
  | .repetition least greatest greed p =>
    IsRegular p ∧ [] ∉ language p ∧ (∀ m ∈ greatest, least ≤ m) ∧ greed ≠ .possessive
  | _ => False

def fills (p : Pattern) (cs : List Char) : Bool :=
  (run cs.toArray p (fun t => if t.position == cs.length then some t else none) ⟨0, []⟩).isSome

def Place.advance (s : Place) (n : Nat) : Place := { s with position := s.position + n }

/-- Whether the goal is reached does not depend on what groups have matched. -/
def IsPositional (k : Goal) : Prop :=
  ∀ s t : Place, s.position = t.position → (k s).isSome = (k t).isSome

def GoesOn (text : Array Char) (L : Language Char) (k : Goal) (s : Place) : Prop :=
  ∃ xs ys, text.toList.drop s.position = xs ++ ys ∧ xs ∈ L ∧ (k (s.advance xs.length)).isSome = true

/-- A part of a search succeeds exactly where the text goes on with a word of a language. -/
def Searches (text : Array Char) (L : Language Char) (body : Goal → Goal) : Prop :=
  ∀ k, IsPositional k → ∀ s, (body k s).isSome = true ↔ GoesOn text L k s

section
variable {text : Array Char} {L M : Language Char} {k : Goal} {body : Goal → Goal} {s t : Place}

theorem drop_advance {xs ys : List Char} (h : text.toList.drop s.position = xs ++ ys) :
    text.toList.drop (s.advance xs.length).position = ys := by
  rw [Place.advance, ← List.drop_drop, h, List.drop_left]

theorem GoesOn.congr (hk : IsPositional k) (hst : s.position = t.position) (h : GoesOn text L k s) :
    GoesOn text L k t := by
  obtain ⟨xs, ys, hsplit, hxs, hgoal⟩ := h
  refine ⟨xs, ys, hst ▸ hsplit, hxs, ?_⟩
  rw [← hgoal]
  exact hk _ _ (congrArg (· + xs.length) hst.symm)

@[simp] theorem goesOn_one_iff : GoesOn text 1 k s ↔ (k s).isSome = true := by
  constructor
  · rintro ⟨xs, ys, -, hxs, hgoal⟩
    rw [Language.mem_one] at hxs
    subst hxs
    exact hgoal
  · exact fun hgoal => ⟨[], _, rfl, Language.nil_mem_one, hgoal⟩

@[simp]
theorem goesOn_add_iff : GoesOn text (L + M) k s ↔ GoesOn text L k s ∨ GoesOn text M k s := by
  simp only [GoesOn, Language.mem_add, or_and_right, and_or_left, exists_or]

theorem goesOn_mul_iff : GoesOn text (L * M) k s ↔
    ∃ xs ys, text.toList.drop s.position = xs ++ ys ∧ xs ∈ L ∧
      GoesOn text M k (s.advance xs.length) := by
  constructor
  · rintro ⟨_, zs, hsplit, hword, hgoal⟩
    obtain ⟨xs, hxs, ys, hys, rfl⟩ := Language.mem_mul.1 hword
    rw [List.append_assoc] at hsplit
    refine ⟨xs, ys ++ zs, hsplit, hxs, ys, zs, drop_advance hsplit, hys, ?_⟩
    rwa [List.length_append, Place.advance, ← Nat.add_assoc] at hgoal
  · rintro ⟨xs, _, hsplit, hxs, ys, zs, hsplit', hys, hgoal⟩
    rw [drop_advance hsplit] at hsplit'
    subst hsplit'
    refine ⟨xs ++ ys, zs, by rw [hsplit, List.append_assoc], Language.append_mem_mul hxs hys, ?_⟩
    rwa [List.length_append, Place.advance, ← Nat.add_assoc]

namespace Searches

theorem positional (h : Searches text L body) (hk : IsPositional k) : IsPositional (body k) := by
  intro s t hst
  rw [Bool.eq_iff_iff, h k hk, h k hk]
  exact ⟨.congr hk hst, .congr hk hst.symm⟩

theorem step (p : Char → Bool) :
    Searches text {xs | ∃ x, p x = true ∧ xs = [x]} (step text p) := by
  intro k hk s
  have hhead : text[s.position]? = (text.toList.drop s.position).head? := by
    rw [List.head?_drop, Array.getElem?_toList]
  unfold Pattern.step GoesOn
  rw [hhead]
  cases htext : text.toList.drop s.position with
  | nil =>
    refine iff_of_false (by simp) ?_
    rintro ⟨_, ys, hsplit, ⟨x, -, rfl⟩, -⟩
    cases hsplit
  | cons c cs =>
    dsimp only [List.head?_cons]
    constructor
    · intro h
      split_ifs at h with hc
      · exact ⟨[c], cs, rfl, ⟨c, hc, rfl⟩, h⟩
      · cases h
    · rintro ⟨_, ys, hsplit, ⟨x, hx, rfl⟩, hgoal⟩
      cases hsplit
      rw [if_pos hx]
      exact hgoal

theorem mul {a b : Goal → Goal} (ha : Searches text L a) (hb : Searches text M b) :
    Searches text (L * M) (fun k => a (b k)) := by
  intro k hk s
  rw [ha _ (hb.positional hk), goesOn_mul_iff]
  simp only [GoesOn, hb k hk]

theorem add {a b : Goal → Goal} (ha : Searches text L a) (hb : Searches text M b) :
    Searches text (L + M) (fun k s => match a k s with
      | some r => some r
      | none => b k s) := by
  intro k hk s
  rw [goesOn_add_iff, ← ha k hk, ← hb k hk]
  cases ha' : a k s with
  | none => simp [ha']
  | some r => simp [ha']

theorem group (h : Searches text L body) (index : Nat) :
    Searches text L (fun k s => body (fun t =>
      k { t with groups := (index, s.position, t.position) :: t.groups }) s) := by
  intro k hk s
  have hsame : ∀ t : Place,
      (k { t with groups := (index, s.position, t.position) :: t.groups }).isSome = (k t).isSome :=
    fun t => hk _ _ rfl
  rw [h _ fun t u htu => (hsame t).trans ((hk t u htu).trans (hsame u).symm)]
  simp only [GoesOn, hsame]

theorem isSome_rounds_succ (body : Goal → Goal) (least : Nat) (greatest : Option Nat)
    (eager : Bool) (k : Goal) (fuel count : Nat) (last : Option Nat) (s : Place) :
    (rounds body least greatest eager k (fuel + 1) count last s).isSome =
      if count < least then
        (body (rounds body least greatest eager k fuel (count + 1) last) s).isSome
      else (greatest.all (count < ·) && last != some s.position &&
        (body (rounds body least greatest eager k fuel (count + 1) (some s.position)) s).isSome) ||
          (k s).isSome := by
  simp only [rounds]
  split_ifs with hcount hround <;> try rfl
  all_goals
    generalize body (rounds body least greatest eager k fuel (count + 1) (some s.position)) s = r
    cases r <;> cases k s <;> simp_all

theorem rounds_positional (hbody : Searches text L body) (hk : IsPositional k) (least : Nat)
    (greatest : Option Nat) (eager : Bool) (fuel count : Nat) (last : Option Nat) :
    IsPositional (rounds body least greatest eager k fuel count last) := by
  induction fuel generalizing count last with
  | zero => exact hk
  | succ fuel ih =>
    intro s t hst
    rw [isSome_rounds_succ, isSome_rounds_succ, hst, hk s t hst,
      hbody.positional (ih _ _) s t hst, hbody.positional (ih _ _) s t hst]

theorem round_isSome_iff (hbody : Searches text L body) (hL : [] ∉ L) {rest : Goal}
    (hrest : IsPositional rest) {holds : Nat → Prop}
    (ih : ∀ xs ys, text.toList.drop s.position = xs ++ ys → xs ≠ [] →
      ((rest (s.advance xs.length)).isSome = true ↔
        ∃ n, holds n ∧ GoesOn text (L ^ n) k (s.advance xs.length))) :
    (body rest s).isSome = true ↔ ∃ n, holds n ∧ GoesOn text (L ^ (n + 1)) k s := by
  rw [hbody rest hrest]
  constructor
  · rintro ⟨xs, ys, hsplit, hxs, hgoal⟩
    have hne : xs ≠ [] := by rintro rfl; exact hL hxs
    obtain ⟨n, hn, hgoes⟩ := (ih xs ys hsplit hne).1 hgoal
    exact ⟨n, hn, by rw [pow_succ']; exact goesOn_mul_iff.2 ⟨xs, ys, hsplit, hxs, hgoes⟩⟩
  · rintro ⟨n, hn, hgoes⟩
    rw [pow_succ', goesOn_mul_iff] at hgoes
    obtain ⟨xs, ys, hsplit, hxs, hgoes⟩ := hgoes
    have hne : xs ≠ [] := by rintro rfl; exact hL hxs
    exact ⟨xs, ys, hsplit, hxs, (ih xs ys hsplit hne).2 ⟨n, hn, hgoes⟩⟩

/-- The fuel suffices as each round takes up a character, which also keeps the round before from
having begun here. -/
theorem rounds_isSome_iff (hbody : Searches text L body) (hk : IsPositional k) {least : Nat}
    {greatest : Option Nat} (hL : [] ∉ L) (hbounds : ∀ m ∈ greatest, least ≤ m) (eager : Bool)
    {fuel : Nat} (count : Nat) {last : Option Nat} {s : Place}
    (hfuel : (text.toList.drop s.position).length < fuel)
    (hcount : ∀ m ∈ greatest, count ≤ m) (hlast : ∀ q ∈ last, q < s.position) :
    (rounds body least greatest eager k fuel count last s).isSome = true ↔
      ∃ n, (least ≤ count + n ∧ ∀ m ∈ greatest, count + n ≤ m) ∧ GoesOn text (L ^ n) k s := by
  induction fuel generalizing count last s with
  | zero => exact absurd hfuel (Nat.not_lt_zero _)
  | succ fuel ih =>
    have hround : ∀ last', (∀ q ∈ last', q ≤ s.position) → (∀ m ∈ greatest, count + 1 ≤ m) →
        ((body (rounds body least greatest eager k fuel (count + 1) last') s).isSome = true ↔
          ∃ n, (least ≤ count + (n + 1) ∧ ∀ m ∈ greatest, count + (n + 1) ≤ m) ∧
            GoesOn text (L ^ (n + 1)) k s) := by
      intro last' hlast' hcount'
      refine round_isSome_iff hbody hL
        (hbody.rounds_positional hk least greatest eager fuel (count + 1) last') ?_
      intro xs ys hsplit hne
      have hpos : 0 < xs.length := List.length_pos_of_ne_nil hne
      have hfuel' : (text.toList.drop (s.advance xs.length).position).length < fuel := by
        rw [drop_advance hsplit]
        rw [hsplit, List.length_append] at hfuel
        omega
      have hlater : ∀ q ∈ last', q < (s.advance xs.length).position :=
        fun q hq => (hlast' q hq).trans_lt (Nat.lt_add_of_pos_right hpos)
      simpa only [Nat.add_assoc, Nat.add_comm 1] using ih (count + 1) hfuel' hcount' hlater
    rw [isSome_rounds_succ, ← Nat.or_exists_add_one, pow_zero, goesOn_one_iff]
    simp only [Nat.add_zero]
    split_ifs with hleast
    · rw [hround last (fun q hq => (hlast q hq).le) fun m hm => hleast.trans_le (hbounds m hm)]
      simp only [hleast.not_ge, false_and, false_or]
    · have hfresh : (last != some s.position) = true := by
        cases last with
        | none => rfl
        | some q => simpa using (hlast q rfl).ne
      have hmay : (greatest.all (count < ·) && last != some s.position) = true ↔
          ∀ m ∈ greatest, count + 1 ≤ m := by
        rw [hfresh, Bool.and_true]
        cases greatest with
        | none => exact iff_of_true rfl (by simp)
        | some m =>
          rw [Option.all_some, decide_eq_true_eq]
          exact ⟨fun h m' hm => Option.some.inj hm ▸ h, fun h => h m rfl⟩
      rw [Bool.or_eq_true, Bool.and_eq_true, hmay, or_comm]
      refine or_congr ⟨fun hgoal => ⟨⟨not_lt.1 hleast, hcount⟩, hgoal⟩, fun h => h.2⟩ ?_
      constructor
      · rintro ⟨hcount', hgoes⟩
        exact (hround _ (fun q hq => (Option.some.inj hq).ge) hcount').1 hgoes
      · rintro ⟨n, hn, hgoes⟩
        have hcount' : ∀ m ∈ greatest, count + 1 ≤ m := fun m hm => by
          have := hn.2 m hm
          omega
        exact ⟨hcount', (hround _ (fun q hq => (Option.some.inj hq).ge) hcount').2 ⟨n, hn, hgoes⟩⟩

theorem repetition (hbody : Searches text L body) (hL : [] ∉ L) {least : Nat}
    {greatest : Option Nat} (hbounds : ∀ m ∈ greatest, least ≤ m) (eager : Bool) :
    Searches text {xs | ∃ n, least ≤ n ∧ (∀ m ∈ greatest, n ≤ m) ∧ xs ∈ L ^ n} (fun k s =>
      rounds body least greatest eager k (least + (text.size - s.position) + 2) 0 none s) := by
  intro k hk s
  have hfuel : (text.toList.drop s.position).length < least + (text.size - s.position) + 2 := by
    rw [List.length_drop, Array.length_toList]
    omega
  rw [hbody.rounds_isSome_iff hk hL hbounds eager 0 hfuel (by simp) (by simp)]
  constructor
  · rintro ⟨n, ⟨hleast, hgreatest⟩, xs, ys, hsplit, hxs, hgoal⟩
    rw [Nat.zero_add] at hleast hgreatest
    exact ⟨xs, ys, hsplit, ⟨n, hleast, hgreatest, hxs⟩, hgoal⟩
  · rintro ⟨xs, ys, hsplit, ⟨n, hleast, hgreatest, hxs⟩, hgoal⟩
    exact ⟨n, by simpa using ⟨hleast, hgreatest⟩, xs, ys, hsplit, hxs, hgoal⟩

end Searches

theorem searches_run {p : Pattern} (hp : p.IsRegular) : Searches text p.language (run text p) := by
  induction p with
  | empty => exact fun k _ s => goesOn_one_iff.symm
  | one c => exact .step c.holds
  | any newlines => exact .step fun c => newlines || c != '\n'
  | seq a b iha ihb => exact (iha hp.1).mul (ihb hp.2)
  | alt a b iha ihb => exact (iha hp.1).add (ihb hp.2)
  | scope p ih => exact ih hp
  | group index p ih => exact (ih hp).group index
  | repetition least greatest greed p ih =>
    obtain ⟨hp, hL, hbounds, hgreed⟩ := hp
    cases greed with
    | greedy => exact (ih hp).repetition hL hbounds true
    | lazy => exact (ih hp).repetition hL hbounds false
    | possessive => exact absurd rfl hgreed
  | _ => exact hp.elim

theorem run_to_end_isSome_iff {p : Pattern} {cs : List Char} (hp : p.IsRegular)
    (hk : ∀ t, (k t).isSome = true ↔ t.position = cs.length) :
    (run cs.toArray p k ⟨0, []⟩).isSome = true ↔ cs ∈ p.language := by
  have hpos : IsPositional k := by
    intro s t hst
    rw [Bool.eq_iff_iff, hk, hk, hst]
  rw [searches_run hp k hpos]
  constructor
  · rintro ⟨xs, ys, hsplit, hxs, hgoal⟩
    change cs = xs ++ ys at hsplit
    have hend : 0 + xs.length = cs.length := (hk _).1 hgoal
    rw [hsplit, List.length_append] at hend
    have hys : ys = [] := List.length_eq_zero_iff.1 (by omega)
    rwa [hsplit, hys, List.append_nil]
  · exact fun h => ⟨cs, [], (List.append_nil cs).symm, h, (hk _).2 (Nat.zero_add _)⟩

end

end Intake.Pattern
