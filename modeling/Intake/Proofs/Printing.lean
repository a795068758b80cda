import Intake.Proofs.Contents
import Intake.Proofs.Faults
import Intake.Proofs.Numerals
import Intake.Proofs.Quotations

/-! Values printed in JSON. A value is printed unless something is found in it that JSON has no form
for, and what is printed is read as that value but for what JSON does not tell apart: tuples are
read as lists, and keys as the texts that stand for them, the last entry counting where two are the
same. -/

namespace Intake.Json
open Value Number

/-- JSON has a form for a value, whatever is found in it. Keys are to have a text, and integers are
not to have too many digits. -/
def HasForm : Value → Prop
  | .int n => (Value.int n).isWritable = true
  | .map es => ∀ e ∈ es, ∃ t, keyText e.1 = .ok t
  | .bytes _ | .date _ | .moment _ | .set _ | .answer .. | .upload .. => False
  | _ => True

theorem map_eq_ok {α β : Type} {g : α → β} {r : Except Intake.Fault α} {y : β} :
    g <$> r = .ok y ↔ ∃ x, r = .ok x ∧ g x = y := by
  cases r with
  | error f => exact iff_of_false nofun nofun
  | ok x =>
    constructor
    · rintro ⟨⟩
      exact ⟨x, rfl, rfl⟩
    · rintro ⟨_, ⟨⟩, rfl⟩
      rfl

theorem exists_map_ok {α β : Type} {g : α → β} {r : Except Intake.Fault α} :
    (∃ y, g <$> r = .ok y) ↔ ∃ x, r = .ok x := by
  simp only [map_eq_ok]
  constructor
  · rintro ⟨_, x, hx, _⟩
    exact ⟨x, hx⟩
  · rintro ⟨x, hx⟩
    exact ⟨g x, x, hx, rfl⟩

theorem written_eq_ok_iff {v : Value} {t : String} :
    v.written = .ok t ↔ v.isWritable = true ∧ v.display = t := by
  unfold written
  split
  · rename_i hwritable
    rw [Except.ok.injEq, and_iff_right hwritable]
  · rename_i hwritable
    exact iff_of_false nofun fun h => hwritable h.1

theorem exists_written_iff {v : Value} : (∃ t, v.written = .ok t) ↔ v.isWritable = true := by
  simp only [written_eq_ok_iff, exists_and_left, exists_eq', and_true]

mutual

theorem exists_printAt_iff (level : Nat) (v : Value) :
    (∃ text, printAt false level v = .ok text) ↔ v.Every HasForm := by
  match v with
  | .list xs =>
    rw [printAt, exists_map_ok, exists_printElements_iff, every_list_iff]
    exact (and_iff_right trivial).symm
  | .tuple xs =>
    rw [printAt, exists_map_ok, exists_printElements_iff, every_tuple_iff]
    exact (and_iff_right trivial).symm
  | .map es =>
    rw [printAt, exists_map_ok, exists_printEntries_iff, every_map_iff]
    rfl
  | .int n =>
    rw [every_iff_of_alone rfl rfl, printAt, exists_written_iff, HasForm]
  | .null | .bool _ | .float _ | .text _ =>
    rw [every_iff_of_alone rfl rfl]
    exact iff_of_true ⟨_, rfl⟩ trivial
  | .bytes _ | .date _ | .moment _ | .set _ | .answer _ _ | .upload _ _ _ _ _ =>
    rw [every_iff_of_alone rfl rfl]
    exact iff_of_false nofun not_false
termination_by structural v

theorem exists_printElements_iff (level : Nat) (xs : List Value) :
    (∃ parts, printElements false level xs = .ok parts) ↔ ∀ x ∈ xs, x.Every HasForm := by
  match xs with
  | [] => exact iff_of_true ⟨[], rfl⟩ (List.forall_mem_nil _)
  | x :: xs =>
    rw [List.forall_mem_cons, ← exists_printAt_iff level x, ← exists_printElements_iff level xs,
      printElements]
    simp only [bind_eq_ok]
    constructor
    · rintro ⟨_, part, hpart, parts, hparts, _⟩
      exact ⟨⟨part, hpart⟩, parts, hparts⟩
    · rintro ⟨⟨part, hpart⟩, parts, hparts⟩
      exact ⟨_, part, hpart, parts, hparts, rfl⟩
termination_by structural xs

theorem exists_printEntries_iff (level : Nat) (es : List (Value × Value)) :
    (∃ parts, printEntries false level es = .ok parts) ↔
      (∀ e ∈ es, ∃ t, keyText e.1 = .ok t) ∧ ∀ e ∈ es, e.2.Every HasForm := by
  match es with
  | [] => exact iff_of_true ⟨[], rfl⟩ ⟨List.forall_mem_nil _, List.forall_mem_nil _⟩
  | (k, v) :: es =>
    rw [List.forall_mem_cons, List.forall_mem_cons, and_and_and_comm, ← exists_printAt_iff level v,
      ← exists_printEntries_iff level es, printEntries]
    simp only [bind_eq_ok]
    constructor
    · rintro ⟨_, key, hkey, part, hpart, parts, hparts, _⟩
      exact ⟨⟨⟨key, hkey⟩, part, hpart⟩, parts, hparts⟩
    · rintro ⟨⟨⟨key, hkey⟩, part, hpart⟩, parts, hparts⟩
      exact ⟨_, key, hkey, part, hpart, parts, hparts, rfl⟩
termination_by structural es

end

def carriedKey (k : Value) : Value :=
  match keyText k with
  | .ok t => .text t
  | .error _ => k

mutual

/-- What a value is after JSON has carried it: tuples are lists, and the keys are texts, of which
the last entry counts where two are the same. -/
def carried : Value → Value
  | .list xs => .list (carriedAll xs)
  | .tuple xs => .list (carriedAll xs)
  | .map es => .map (ofEntries (carriedEntries es))
  | v => v
termination_by structural v => v

def carriedAll : List Value → List Value
  | [] => []
  | x :: xs => carried x :: carriedAll xs
termination_by structural xs => xs

def carriedEntries : List (Value × Value) → List (Value × Value)
  | [] => []
  | (k, v) :: es => (carriedKey k, carried v) :: carriedEntries es
termination_by structural es => es

end

def IsExact : Value → Prop
  | .float x => x.IsCanonical
  | _ => True

def Starts (cs : List Char) : Prop :=
  ∃ c cs', cs = c :: cs' ∧ isSpace c = false ∧ c ≠ ']' ∧ c ≠ '\x7d'

theorem Starts.append {cs : List Char} (h : Starts cs) (rest : List Char) :
    Starts (cs ++ rest) := by
  obtain ⟨c, cs, rfl, hc⟩ := h
  exact ⟨c, cs ++ rest, rfl, hc⟩

theorem Starts.head?_append {cs : List Char} (h : Starts cs) (c : Char) (hc : c = ']' ∨ c = '\x7d')
    (rest : List Char) : ((cs ++ rest).head? == some c) = false := by
  obtain ⟨d, cs, rfl, -, hlist, hmap⟩ := h
  refine beq_false_of_ne fun heq => ?_
  obtain rfl := Option.some.inj heq
  exact hc.elim hlist hmap

def AreBlank (cs : List Char) : Prop := ∀ c ∈ cs, isSpace c = true

theorem areBlank_nil : AreBlank [] := List.forall_mem_nil _

theorem skipSpace_blank {bs : List Char} (h : AreBlank bs) {c : Char} (hc : isSpace c = false)
    (cs : List Char) : skipSpace (bs ++ c :: cs) = c :: cs := by
  unfold skipSpace
  rw [List.dropWhile_append_of_pos h, List.dropWhile_cons_of_neg (Bool.eq_false_iff.1 hc)]

theorem Starts.skipSpace_eq {bs cs : List Char} (h : Starts cs) (hbs : AreBlank bs) :
    skipSpace (bs ++ cs) = cs := by
  obtain ⟨c, cs, rfl, hc, -⟩ := h
  exact skipSpace_blank hbs hc cs

/-- A text that is read as a value wherever something follows that ends it. -/
structure Reads (cs : List Char) (v : Value) : Prop where
  starts : Starts cs
  read : ∀ fuel rest, cs.length ≤ fuel → Ends rest → readValue fuel (cs ++ rest) = .ok (v, rest)

theorem reads_of_succ {cs : List Char} {v : Value} (hstarts : Starts cs)
    (h : ∀ fuel rest, cs.length ≤ fuel + 1 → Ends rest →
      readValue (fuel + 1) (cs ++ rest) = .ok (v, rest)) : Reads cs v := by
  refine ⟨hstarts, fun fuel rest hfuel hrest => ?_⟩
  obtain ⟨c, cs, rfl, -⟩ := hstarts
  obtain ⟨fuel, rfl⟩ := Nat.exists_eq_add_one_of_ne_zero (n := fuel) (by simp at hfuel; omega)
  exact h fuel rest hfuel hrest

theorem ne_of_isDigit {c d : Char} (hc : c.isDigit = true) (hd : d.isDigit = false) : d ≠ c := by
  rintro rfl
  rw [hc] at hd
  cases hd

theorem readWord?_number (negative : Bool) {c : Char} (hc : c.isDigit = true) (cs : List Char) :
    readWord? (sign negative ++ c :: cs) = none := by
  have hne : ∀ d : Char, d.isDigit = false → d ≠ c := fun d => ne_of_isDigit hc
  unfold readWord?
  rw [Option.map_eq_none_iff, List.find?_eq_none]
  cases negative with
  | true => simp [words, sign, hne 'I' rfl]
  | false =>
    simp [words, sign, hne 'n' rfl, hne 't' rfl, hne 'f' rfl, hne 'N' rfl, hne 'I' rfl, hne '-' rfl]

theorem exists_cons_number (negative : Bool) {c : Char} (hc : c.isDigit = true) (cs : List Char) :
    ∃ d ds, sign negative ++ c :: cs = d :: ds ∧ ∀ e : Char, e.isDigit = false → e ≠ '-' →
      d ≠ e := by
  cases negative with
  | true => exact ⟨'-', _, rfl, fun e _ hminus heq => hminus heq.symm⟩
  | false => exact ⟨c, cs, rfl, fun e he _ heq => ne_of_isDigit hc he heq.symm⟩

theorem readValue_number (fuel : Nat) (negative : Bool) {c : Char} (hc : c.isDigit = true)
    (cs : List Char) :
    readValue (fuel + 1) (sign negative ++ c :: cs) = readNumber (sign negative ++ c :: cs) := by
  have hword := readWord?_number negative hc cs
  obtain ⟨d, ds, heq, hne⟩ := exists_cons_number negative hc cs
  rw [heq] at hword ⊢
  rw [readValue, hword]
  all_goals
    rintro rest heq
    exact hne _ rfl (by decide) (List.cons.inj heq).1

theorem starts_number (negative : Bool) {c : Char} (hc : c.isDigit = true) (cs : List Char) :
    Starts (sign negative ++ c :: cs) := by
  obtain ⟨d, ds, heq, hne⟩ := exists_cons_number negative hc cs
  refine ⟨d, ds, heq, ?_, hne ']' rfl (by decide), hne '\x7d' rfl (by decide)⟩
  have hspace : ∀ e : Char, e.isDigit = false → e ≠ '-' → (d == e) = false :=
    fun e he hminus => beq_false_of_ne (hne e he hminus)
  simp only [isSpace, hspace ' ' rfl (by decide), hspace '\t' rfl (by decide),
    hspace '\n' rfl (by decide), hspace '\r' rfl (by decide), Bool.or_self]

theorem reads_number {negative : Bool} {ds : List Char} {v : Value}
    (hdigits : ∃ c cs, ds = c :: cs ∧ c.isDigit = true)
    (h : ∀ rest, Ends rest → readNumber (sign negative ++ (ds ++ rest)) = .ok (v, rest)) :
    Reads (sign negative ++ ds) v := by
  obtain ⟨c, cs, rfl, hc⟩ := hdigits
  refine reads_of_succ (starts_number negative hc cs) fun fuel rest _ hrest => ?_
  have hread := h rest hrest
  rw [List.append_assoc]
  rw [List.cons_append] at hread ⊢
  rw [readValue_number fuel negative hc, hread]

theorem toList_toString (n : Int) :
    (toString n).toList = sign (decide (n < 0)) ++ Nat.toDigits 10 n.natAbs := by
  rw [Int.toString_eq_repr, Int.repr_eq_if, Nat.repr_eq_ofList_toDigits,
    Nat.repr_eq_ofList_toDigits]
  by_cases h : n < 0
  · have hnat : (-n).toNat = n.natAbs := by omega
    rw [if_neg (not_le.2 h), decide_eq_true h, hnat, String.toList_append, String.toList_ofList,
      String.toList_ofList]
    rfl
  · have hnat : n.toNat = n.natAbs := by omega
    rw [if_pos (not_lt.1 h), decide_eq_false h, hnat, String.toList_ofList]
    rfl

theorem reads_int {n : Int} (h : (Value.int n).isWritable = true) :
    Reads (toString n).toList (.int n) := by
  rw [isWritable_int_iff] at h
  have hlimit : n.natAbs < 10 ^ digitLimit := by
    -- the limit is hidden so that no power of it is computed
    generalize digitLimit = limit at h ⊢
    exact h
  have hsigned : Binary64.signed (decide (n < 0)) n.natAbs = n := by
    unfold Binary64.signed
    split_ifs with hneg
    · have hlt := of_decide_eq_true hneg
      omega
    · have hge := of_decide_eq_false (Bool.eq_false_iff.2 hneg)
      omega
  rw [toList_toString]
  refine reads_number ?_ fun rest hrest => ?_
  · cases hdigits : Nat.toDigits 10 n.natAbs with
    | nil => exact absurd hdigits Nat.toDigits_ne_nil
    | cons c cs =>
      have hall := areDigits_toDigits n.natAbs
      rw [hdigits] at hall
      exact ⟨c, cs, rfl, hall c List.mem_cons_self⟩
  · rw [readNumber_int _ hlimit hrest, hsigned]

theorem reads_number_text (x : Binary64) (h : x.IsCanonical) :
    Reads (number x).toList (.float x) := by
  cases x with
  | nan => exact reads_of_succ ⟨'N', _, rfl, rfl, by decide, by decide⟩ fun _ _ _ _ => rfl
  | infinite s =>
    cases s with
    | true => exact reads_of_succ ⟨'-', _, rfl, rfl, by decide, by decide⟩ fun _ _ _ _ => rfl
    | false => exact reads_of_succ ⟨'I', _, rfl, rfl, by decide, by decide⟩ fun _ _ _ _ => rfl
  | finite s m e =>
    have htext : (number (.finite s m e)).toList = sign s ++ magnitude m e := String.toList_ofList
    rw [htext]
    exact reads_number (exists_digit_magnitude h) fun rest hrest => readNumber_magnitude s h hrest

@[simp] theorem toList_quotedText (s : String) :
    (quotedText s).toList = '"' :: (s.toList.flatMap escapedChar ++ ['"']) := String.toList_ofList

theorem reads_text (s : String) : Reads (quotedText s).toList (.text s) := by
  rw [toList_quotedText]
  refine reads_of_succ ⟨'"', _, rfl, rfl, by decide, by decide⟩ fun fuel rest _ _ => ?_
  rw [List.cons_append, List.append_assoc, List.singleton_append, readValue]
  simp only [readText_escaped]
  rfl

theorem ends_blank {bs : List Char} (h : AreBlank bs) {c : Char}
    (hc : c = ',' ∨ c = ']' ∨ c = '\x7d')
    (cs : List Char) : Ends (bs ++ c :: cs) := by
  intro d hd
  cases bs with
  | nil =>
    obtain rfl := Option.some.inj hd
    rcases hc with rfl | rfl | rfl <;> decide
  | cons b bs =>
    obtain rfl := Option.some.inj hd
    have hb := h b List.mem_cons_self
    simp only [isSpace, Bool.or_eq_true, beq_iff_eq] at hb
    rcases hb with ((rfl | rfl) | rfl) | rfl <;> decide

def joined (bs : List Char) (parts : List (List Char)) : List Char := (',' :: bs).intercalate parts

section
variable {bs : List Char} {p : List Char} {ps : List (List Char)}

@[simp] theorem joined_singleton : joined bs [p] = p := List.intercalate_singleton

theorem joined_cons (h : ps ≠ []) : joined bs (p :: ps) = p ++ ',' :: (bs ++ joined bs ps) := by
  unfold joined
  rw [List.intercalate_cons_of_ne_nil h, List.append_assoc, List.cons_append]

theorem Starts.joined (h : Starts p) : Starts (joined bs (p :: ps)) := by
  cases ps with
  | nil => rwa [joined_singleton]
  | cons q ps =>
    rw [joined_cons (List.cons_ne_nil q ps)]
    exact h.append _

end

section
variable {fuel : Nat} {cs rest rest' r : List Char} {x : Value} {xs : List Value}

theorem readElements_last (h : readValue fuel cs = .ok (x, rest))
    (hrest : skipSpace rest = ']' :: rest') : readElements (fuel + 1) cs = .ok ([x], rest') := by
  rw [readElements]
  simp only [h, bind, Except.bind, hrest]
  rfl

theorem readElements_more (h : readValue fuel cs = .ok (x, rest))
    (hrest : skipSpace rest = ',' :: rest')
    (hmore : readElements fuel (skipSpace rest') = .ok (xs, r)) :
    readElements (fuel + 1) cs = .ok (x :: xs, r) := by
  rw [readElements]
  simp only [h, bind, Except.bind, hrest, hmore]
  rfl

end

theorem readElements_joined {bs bs' : List Char} (hbs : AreBlank bs) (hbs' : AreBlank bs')
    {parts : List (List Char)} {xs : List Value} (h : List.Forall₂ Reads parts xs)
    (hne : parts ≠ []) :
    ∀ fuel rest, (joined bs parts).length < fuel →
      readElements fuel (joined bs parts ++ (bs' ++ ']' :: rest)) = .ok (xs, rest) := by
  induction h with
  | nil => exact absurd rfl hne
  | @cons p x ps xs hp hps ih =>
    intro fuel rest hfuel
    obtain ⟨fuel, rfl⟩ := Nat.exists_eq_add_one_of_ne_zero (Nat.ne_zero_of_lt hfuel)
    cases hps with
    | nil =>
      rw [joined_singleton] at hfuel ⊢
      have hclose := ends_blank hbs' (c := ']') (by decide) rest
      have hread := hp.read fuel _ (Nat.le_of_lt_succ hfuel) hclose
      exact readElements_last hread (skipSpace_blank hbs' rfl rest)
    | @cons q y ps xs hq hps =>
      have hsome : q :: ps ≠ [] := List.cons_ne_nil q ps
      rw [joined_cons hsome, List.length_append, List.length_cons, List.length_append] at hfuel
      have hcomma : Ends (',' :: (bs ++ (joined bs (q :: ps) ++ (bs' ++ ']' :: rest)))) :=
        ends_blank areBlank_nil (by decide) _
      have hread := hp.read fuel _ (by omega) hcomma
      have hmore := ih hsome fuel rest (by omega)
      rw [joined_cons hsome, List.append_assoc, List.cons_append, List.append_assoc]
      refine readElements_more hread rfl ?_
      rw [(hq.starts.joined.append _).skipSpace_eq hbs, hmore]

theorem reads_list {bs bs' : List Char} (hbs : AreBlank bs) (hbs' : AreBlank bs')
    {parts : List (List Char)} {xs : List Value} (h : List.Forall₂ Reads parts xs)
    (hne : parts ≠ []) :
    Reads ('[' :: (bs ++ (joined bs parts ++ (bs' ++ [']'])))) (.list xs) := by
  refine reads_of_succ ⟨'[', _, rfl, rfl, by decide, by decide⟩ fun fuel rest hfuel _ => ?_
  have hstarts : Starts (joined bs parts) := by
    cases h with
    | nil => exact absurd rfl hne
    | cons hp _ => exact hp.starts.joined
  have hlength : (joined bs parts).length < fuel := by
    simp only [List.length_cons, List.length_append] at hfuel
    omega
  have hread := readElements_joined hbs hbs' h hne fuel rest hlength
  have hskip := (hstarts.append (bs' ++ ']' :: rest)).skipSpace_eq hbs
  have hopen := hstarts.head?_append ']' (.inl rfl) (bs' ++ ']' :: rest)
  simp only [List.cons_append, List.append_assoc, List.nil_append]
  rw [readValue, hskip]
  simp only [hopen, Bool.false_eq_true, if_false, hread]
  rfl

def IsEntry (cs : List Char) (e : Value × Value) : Prop :=
  ∃ key text, cs = (quotedText key).toList ++ (':' :: ' ' :: text) ∧ e.1 = .text key ∧
    Reads text e.2

theorem IsEntry.starts {cs : List Char} {e : Value × Value} (h : IsEntry cs e) : Starts cs := by
  obtain ⟨key, text, rfl, -⟩ := h
  exact (reads_text key).starts.append _

section
variable {fuel : Nat} {cs rest rest' r : List Char} {e : Value × Value}
  {before : List (Value × Value)}

theorem readEntries_entry (h : IsEntry cs e) (hfuel : cs.length ≤ fuel) (hrest : Ends rest) :
    readEntries before (fuel + 1) (cs ++ rest) =
      match skipSpace rest with
      | '\x7d' :: rest => .ok (setEntry e.1 e.2 before, rest)
      | ',' :: rest => readEntries (setEntry e.1 e.2 before) fuel (skipSpace rest)
      | _ => halt .comma (skipSpace rest) := by
  obtain ⟨key, text, rfl, hkey, hreads⟩ := h
  have hlength : text.length ≤ fuel := by
    simp only [List.length_append, List.length_cons] at hfuel
    omega
  have hcolon : skipSpace (':' :: ' ' :: (text ++ rest)) = ':' :: ' ' :: (text ++ rest) := rfl
  have hblank : AreBlank [' '] := List.forall_mem_singleton.2 rfl
  have hvalue : skipSpace (' ' :: (text ++ rest)) = text ++ rest :=
    (hreads.starts.append rest).skipSpace_eq hblank
  rw [toList_quotedText]
  simp only [List.cons_append, List.append_assoc, List.nil_append]
  rw [readEntries]
  simp only [readText_escaped, bind, Except.bind, hcolon, hvalue, hkey,
    hreads.read fuel rest hlength hrest]
  rfl

end

theorem readEntries_joined {bs bs' : List Char} (hbs : AreBlank bs) (hbs' : AreBlank bs')
    {parts : List (List Char)} {es : List (Value × Value)} (h : List.Forall₂ IsEntry parts es)
    (hne : parts ≠ []) : ∀ before fuel rest, (joined bs parts).length < fuel →
      readEntries before fuel (joined bs parts ++ (bs' ++ '\x7d' :: rest)) =
        .ok (es.foldl (fun es e => setEntry e.1 e.2 es) before, rest) := by
  induction h with
  | nil => exact absurd rfl hne
  | @cons p e ps es hp hps ih =>
    intro before fuel rest hfuel
    obtain ⟨fuel, rfl⟩ := Nat.exists_eq_add_one_of_ne_zero (Nat.ne_zero_of_lt hfuel)
    cases hps with
    | nil =>
      rw [joined_singleton] at hfuel ⊢
      have hclose := ends_blank hbs' (c := '\x7d') (by decide) rest
      rw [readEntries_entry hp (Nat.le_of_lt_succ hfuel) hclose, skipSpace_blank hbs' rfl rest]
      rfl
    | @cons q e' ps es hq hps =>
      have hsome : q :: ps ≠ [] := List.cons_ne_nil q ps
      rw [joined_cons hsome, List.length_append, List.length_cons, List.length_append] at hfuel
      have hcomma : Ends (',' :: (bs ++ (joined bs (q :: ps) ++ (bs' ++ '\x7d' :: rest)))) :=
        ends_blank areBlank_nil (by decide) _
      have hmore := ih hsome (setEntry e.1 e.2 before) fuel rest (by omega)
      rw [joined_cons hsome, List.append_assoc, List.cons_append, List.append_assoc,
        readEntries_entry hp (by omega) hcomma]
      show readEntries _ fuel (skipSpace (bs ++ _)) = _
      rw [(hq.starts.joined.append _).skipSpace_eq hbs, hmore]
      rfl

theorem reads_map {bs bs' : List Char} (hbs : AreBlank bs) (hbs' : AreBlank bs')
    {parts : List (List Char)} {es : List (Value × Value)} (h : List.Forall₂ IsEntry parts es)
    (hne : parts ≠ []) :
    Reads ('\x7b' :: (bs ++ (joined bs parts ++ (bs' ++ ['\x7d'])))) (.map (ofEntries es)) := by
  refine reads_of_succ ⟨'\x7b', _, rfl, rfl, by decide, by decide⟩ fun fuel rest hfuel _ => ?_
  have hstarts : Starts (joined bs parts) := by
    cases h with
    | nil => exact absurd rfl hne
    | cons hp _ => exact hp.starts.joined
  have hlength : (joined bs parts).length < fuel := by
    simp only [List.length_cons, List.length_append] at hfuel
    omega
  have hread := readEntries_joined hbs hbs' h hne [] fuel rest hlength
  have hskip := (hstarts.append (bs' ++ '\x7d' :: rest)).skipSpace_eq hbs
  have hopen := hstarts.head?_append '\x7d' (.inr rfl) (bs' ++ '\x7d' :: rest)
  simp only [List.cons_append, List.append_assoc, List.nil_append]
  rw [readValue, hskip]
  simp only [hopen, Bool.false_eq_true, if_false, hread]
  rfl

@[simp] theorem toList_indentation (level : Nat) :
    (indentation level).toList = '\n' :: List.replicate (2 * level) ' ' := String.toList_ofList

theorem areBlank_indentation (level : Nat) : AreBlank (indentation level).toList := by
  rw [toList_indentation]
  refine List.forall_mem_cons.2 ⟨rfl, fun c hc => ?_⟩
  rw [List.eq_of_mem_replicate hc]
  rfl

theorem toList_block (left right : String) (level : Nat) {parts : List String} (h : parts ≠ []) :
    (block left right level parts).toList = left.toList ++ ((indentation (level + 1)).toList ++
      (joined (indentation (level + 1)).toList (parts.map String.toList) ++
        ((indentation level).toList ++ right.toList))) := by
  have hsome : ¬ parts.isEmpty = true := by simpa using h
  unfold block joined
  rw [if_neg hsome]
  simp only [String.toList_append, String.toList_intercalate, List.append_assoc]
  rfl

theorem reads_list_block (level : Nat) {parts : List String} {xs : List Value}
    (h : List.Forall₂ Reads (parts.map String.toList) xs) :
    Reads (block "[" "]" level parts).toList (.list xs) := by
  by_cases hne : parts = []
  · subst hne
    cases h
    have hempty : (block "[" "]" level []).toList = ['[', ']'] := String.toList_append
    rw [hempty]
    exact reads_of_succ ⟨'[', _, rfl, rfl, by decide, by decide⟩ fun _ _ _ _ => rfl
  · rw [toList_block _ _ level hne]
    exact reads_list (areBlank_indentation _) (areBlank_indentation _) h (by simpa using hne)

theorem reads_map_block (level : Nat) {parts : List String} {es : List (Value × Value)}
    (h : List.Forall₂ IsEntry (parts.map String.toList) es) :
    Reads (block "\x7b" "\x7d" level parts).toList (.map (ofEntries es)) := by
  by_cases hne : parts = []
  · subst hne
    cases h
    have hempty : (block "\x7b" "\x7d" level []).toList = ['\x7b', '\x7d'] := String.toList_append
    rw [hempty]
    exact reads_of_succ ⟨'\x7b', _, rfl, rfl, by decide, by decide⟩ fun _ _ _ _ => rfl
  · rw [toList_block _ _ level hne]
    exact reads_map (areBlank_indentation _) (areBlank_indentation _) h (by simpa using hne)

mutual

/-- What is printed is read as what JSON carries of the value. -/
theorem reads_printAt (level : Nat) (v : Value) (hexact : v.Every IsExact) :
    ∀ text, printAt false level v = .ok text → Reads text.toList (carried v) := by
  match v with
  | .list xs =>
    intro text h
    rw [printAt, map_eq_ok] at h
    obtain ⟨parts, hparts, rfl⟩ := h
    have hxs := (every_list_iff.1 hexact).2
    exact reads_list_block level (reads_printElements (level + 1) xs hxs hparts)
  | .tuple xs =>
    intro text h
    rw [printAt, map_eq_ok] at h
    obtain ⟨parts, hparts, rfl⟩ := h
    have hxs := (every_tuple_iff.1 hexact).2
    exact reads_list_block level (reads_printElements (level + 1) xs hxs hparts)
  | .map es =>
    intro text h
    rw [printAt, map_eq_ok] at h
    obtain ⟨parts, hparts, rfl⟩ := h
    have hes := (every_map_iff.1 hexact).2
    exact reads_map_block level (isEntry_printEntries (level + 1) es hes hparts)
  | .null =>
    rintro _ ⟨⟩
    exact reads_of_succ ⟨'n', _, rfl, rfl, by decide, by decide⟩ fun _ _ _ _ => rfl
  | .bool true =>
    rintro _ ⟨⟩
    exact reads_of_succ ⟨'t', _, rfl, rfl, by decide, by decide⟩ fun _ _ _ _ => rfl
  | .bool false =>
    rintro _ ⟨⟩
    exact reads_of_succ ⟨'f', _, rfl, rfl, by decide, by decide⟩ fun _ _ _ _ => rfl
  | .int n =>
    intro text h
    rw [printAt, written_eq_ok_iff] at h
    obtain ⟨hwritable, rfl⟩ := h
    exact reads_int hwritable
  | .float x =>
    rintro _ ⟨⟩
    exact reads_number_text x hexact.here
  | .text s =>
    rintro _ ⟨⟩
    exact reads_text s
  | .bytes _ | .date _ | .moment _ | .set _ | .answer _ _ | .upload _ _ _ _ _ => nofun
termination_by structural v

theorem reads_printElements (level : Nat) (xs : List Value) (hexact : ∀ x ∈ xs, x.Every IsExact)
    {parts : List String} (h : printElements false level xs = .ok parts) :
    List.Forall₂ Reads (parts.map String.toList) (carriedAll xs) := by
  match xs with
  | [] =>
    obtain rfl := Except.ok.inj h
    exact .nil
  | x :: xs =>
    rw [List.forall_mem_cons] at hexact
    obtain ⟨part, hpart, h⟩ := bind_eq_ok.1 h
    obtain ⟨parts, hparts, h⟩ := bind_eq_ok.1 h
    obtain rfl := Except.ok.inj h
    exact .cons (reads_printAt level x hexact.1 part hpart)
      (reads_printElements level xs hexact.2 hparts)
termination_by structural xs

theorem isEntry_printEntries (level : Nat) (es : List (Value × Value))
    (hexact : ∀ e ∈ es, e.2.Every IsExact) {parts : List String}
    (h : printEntries false level es = .ok parts) :
    List.Forall₂ IsEntry (parts.map String.toList) (carriedEntries es) := by
  match es with
  | [] =>
    obtain rfl := Except.ok.inj h
    exact .nil
  | (k, v) :: es =>
    rw [List.forall_mem_cons] at hexact
    obtain ⟨key, hkey, h⟩ := bind_eq_ok.1 h
    obtain ⟨part, hpart, h⟩ := bind_eq_ok.1 h
    obtain ⟨parts, hparts, h⟩ := bind_eq_ok.1 h
    obtain rfl := Except.ok.inj h
    have hentry : IsEntry (quotedText key ++ ": " ++ part).toList (carriedKey k, carried v) := by
      refine ⟨key, part.toList, ?_, ?_, reads_printAt level v hexact.1 part hpart⟩
      · simp only [String.toList_append, List.append_assoc]
        rfl
      · unfold carriedKey
        rw [hkey]
    exact .cons hentry (isEntry_printEntries level es hexact.2 hparts)
termination_by structural es

end

theorem readChars_print {v : Value} (hexact : v.Every IsExact) {text : String}
    (h : print v = .ok text) : readChars text.toList = .ok (carried v) := by
  obtain ⟨hstarts, hread⟩ := reads_printAt 0 v hexact text h
  have hbody : readBody text.toList = .ok (carried v) := by
    have hwhole := hread (2 * text.toList.length + 2) [] (by omega) nofun
    have hskip : skipSpace text.toList = text.toList := hstarts.skipSpace_eq areBlank_nil
    rw [List.append_nil] at hwhole
    unfold readBody
    rw [hskip, hwhole]
    rfl
  have hmark : ¬ text.toList.head? = some '\uFEFF' := by
    intro hhead
    -- no value is read where a document starts with the mark
    obtain ⟨c, cs, heq, -⟩ := hstarts
    rw [heq] at hhead hread
    obtain rfl := Option.some.inj hhead
    have hnone : readValue (cs.length + 1) ('\uFEFF' :: cs ++ []) = .ok (carried v, []) :=
      hread (cs.length + 1) [] le_rfl nofun
    cases hnone
  unfold readChars
  rw [beq_false_of_ne hmark, if_neg Bool.false_ne_true, hbody]

end Intake.Json
