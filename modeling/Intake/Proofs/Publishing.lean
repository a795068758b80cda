import Intake.Command.Outcome
import Intake.Proofs.Composition
import Intake.Proofs.Conversions
import Intake.Proofs.Forms
import Intake.Proofs.Printing

/-! Forms that are published. What is printed of a form are the documents of its fields without
their secrets; they are printed unless something is found in them that JSON has no form for, which a
form may hold and be accepted. Forms that hold nothing but what JSON gives are always printed, and
the same fields are read from what is printed. -/

namespace Intake

namespace Value

theorem foldl_setEntry (before : List (Value × Value)) {es : List (Value × Value)}
    (h : AreTextKeys ((before ++ es).map (·.1))) :
    es.foldl (fun es e => setEntry e.1 e.2 es) before = before ++ es := by
  induction es generalizing before with
  | nil => exact (List.append_nil before).symm
  | cons e es ih =>
    have hset : setEntry e.1 e.2 before = before ++ [e] := by
      rw [List.map_append, List.map_cons] at h
      have htext := h.texts e.1 (List.mem_append_right _ List.mem_cons_self)
      refine setEntry_of_fresh htext (fun hmem => ?_) e.2
      exact (List.nodup_append.1 h.distinct).2.2 _ hmem _ List.mem_cons_self rfl
    rw [List.append_cons] at h
    rw [List.foldl_cons, hset, ih _ h, ← List.append_cons]

theorem ofEntries_of_textKeys {es : List (Value × Value)} (h : AreTextKeys (es.map (·.1))) :
    ofEntries es = es :=
  foldl_setEntry [] h

end Value

namespace Json
open Value

/-- Values as JSON gives them, whatever is found in them: the keys of a map are texts, each there
once, and numbers are as they are read. -/
def IsPlain : Value → Prop
  | .int n => (Value.int n).isWritable = true
  | .float x => x.IsCanonical
  | .map es => AreTextKeys (es.map (·.1))
  | .tuple _ | .bytes _ | .date _ | .moment _ | .set _ | .answer .. | .upload .. => False
  | _ => True

theorem kept_isPlain : Kept IsPlain where
  null := trivial
  text _ := trivial
  yes := trivial
  list _ := trivial
  empty := areTextKeys_nil
  map h hnames := hnames h

theorem kept_isExact : Kept IsExact where
  null := trivial
  text _ := trivial
  yes := trivial
  list _ := trivial
  empty := trivial
  map _ _ := trivial

theorem IsPlain.hasForm {v : Value} (h : IsPlain v) : HasForm v := by
  cases v with
  | int n => exact h
  | map es =>
    intro e he
    obtain ⟨s, hs⟩ := AreTextKeys.texts h e.1 (List.mem_map_of_mem he)
    exact ⟨s, by rw [hs, keyText]⟩
  | null | bool _ | float _ | text _ | list _ => trivial
  | _ => exact h.elim

theorem IsPlain.isExact {v : Value} (h : IsPlain v) : IsExact v := by
  cases v with
  | float x => exact h
  | _ => trivial

mutual

theorem carried_of_plain (v : Value) (h : v.Every IsPlain) : carried v = v := by
  match v with
  | .list xs => exact congrArg Value.list (carriedAll_of_plain xs (every_list_iff.1 h).2)
  | .map es =>
    obtain ⟨hnames, hes⟩ := every_map_iff.1 h
    rw [carried, carriedEntries_of_plain es hnames.texts hes, ofEntries_of_textKeys hnames]
  | .tuple xs => exact (every_tuple_iff.1 h).1.elim
  | .null | .bool _ | .int _ | .float _ | .text _ | .bytes _ | .date _ | .moment _ | .set _
  | .answer _ _ | .upload _ _ _ _ _ => rfl
termination_by structural v

theorem carriedAll_of_plain (xs : List Value) (h : ∀ x ∈ xs, x.Every IsPlain) :
    carriedAll xs = xs := by
  match xs with
  | [] => rfl
  | x :: xs =>
    rw [List.forall_mem_cons] at h
    rw [carriedAll, carried_of_plain x h.1, carriedAll_of_plain xs h.2]
termination_by structural xs

theorem carriedEntries_of_plain (es : List (Value × Value)) (htexts : ∀ k ∈ es.map (·.1), k.IsText)
    (h : ∀ e ∈ es, e.2.Every IsPlain) : carriedEntries es = es := by
  match es with
  | [] => rfl
  | (k, v) :: es =>
    rw [List.forall_mem_cons] at h
    rw [List.map_cons, List.forall_mem_cons] at htexts
    obtain ⟨s, rfl⟩ := htexts.1
    rw [carriedEntries, carried_of_plain v h.1, carriedEntries_of_plain es htexts.2 h.2]
    rfl
termination_by structural es

end

end Json

namespace Command
open Value Json Intake.Field Intake.Field.Shorthand

/-- What is printed of a form: the documents of its fields without their secrets. -/
def publicDocument (fields : List Field) : Value := .list ((redactAll fields).map toValue)

@[simp] theorem toValues_eq_map (fields : List Field) : toValues fields = fields.map toValue := by
  induction fields with
  | nil => rfl
  | cons f fields ih =>
    rw [toValues, ih]
    rfl

theorem exists_list_of_ofForm {p : Value → Prop} (hp : Kept p) {v : Value} (h : v.Every p)
    {fields : List Field} (hread : ofForm v = .ok fields) :
    ∃ xs : List Value, (∀ x ∈ xs, x.Every p) ∧ ofValues (expandAll xs) = .ok fields := by
  have hlisted : (listed v).Every p := by
    cases v with
    | map es => exact hp.every_fieldD h "fields"
    | _ => exact h
  by_cases hlist : ∃ xs, listed v = .list xs
  · obtain ⟨xs, hxs⟩ := hlist
    rw [hxs] at hlisted
    rw [ofForm_of_list hxs] at hread
    exact ⟨xs, (every_list_iff.1 hlisted).2, hread⟩
  · rw [ofForm_of_not_list hlist] at hread
    cases hread

/-- The documents of the fields of a form hold what the form does, and are read as these fields. -/
theorem publicDocument_of_ofForm {p : Value → Prop} (hp : Kept p) {v : Value} (h : v.Every p)
    {fields : List Field} (hread : ofForm v = .ok fields) :
    (publicDocument fields).Every p ∧ ofForm (publicDocument fields) = .ok (redactAll fields) := by
  obtain ⟨xs, hxs, hread⟩ := exists_list_of_ofForm hp h hread
  have hfields := madeOf_ofValues hp _ (every_expandAll hp xs hxs) hread
  obtain ⟨hvalues, hagain⟩ := AllMadeOf.toValues hp _ (allMadeOf_redactAll hp fields hfields)
  unfold publicDocument
  rw [← toValues_eq_map]
  exact ⟨hp.every_list hvalues, ofValues_expandAll _ hagain⟩

/-- A form is published exactly where JSON has a form for all that is found in the documents of its
fields. What is printed then is read as what JSON carries of these documents; and a form that holds
nothing but what JSON gives is published, and read from what is printed as its fields without their
secrets. -/
theorem published_of_ofForm {v : Value} {fields : List Field} (h : ofForm v = .ok fields) :
    ((∃ text, published fields = .ok text) ↔ (publicDocument fields).Every HasForm) ∧
    (v.Every IsExact → ∀ text, published fields = .ok text →
      readChars text.toList = .ok (carried (publicDocument fields))) ∧
    (v.Every IsPlain → ∃ text, published fields = .ok text ∧
      ∃ d, readChars text.toList = .ok d ∧ ofForm d = .ok (redactAll fields)) := by
  have hprinted : (∃ text, published fields = .ok text) ↔ (publicDocument fields).Every HasForm :=
    exists_printAt_iff 0 (publicDocument fields)
  refine ⟨hprinted, fun hexact text htext => ?_, fun hplain => ?_⟩
  · exact readChars_print (publicDocument_of_ofForm kept_isExact hexact h).1 htext
  · obtain ⟨hdocument, hread⟩ := publicDocument_of_ofForm kept_isPlain hplain h
    obtain ⟨text, htext⟩ := hprinted.2 fun x hx => (hdocument x hx).hasForm
    have hcarried := readChars_print (fun x hx => (hdocument x hx).isExact) htext
    rw [carried_of_plain _ hdocument] at hcarried
    exact ⟨text, htext, _, hcarried, hread⟩

def startingForm (start : Value) : Value :=
  .list [.map [(.text "slug", .text "day"), (.text "displayName", .text "Day"),
      (.text "type", .text "date"), (.text "initialValue", start)],
    .map [(.text "slug", .text "robot"), (.text "displayName", .text "Robot"),
      (.text "type", .text "recaptcha"), (.text "validators", .map [(.text "reCaptcha",
        .map [(.text "siteKey", .text "site"), (.text "secret", .text "shh")])])]]

theorem every_startingForm {start : Value} (h : start.Every IsPlain) :
    (startingForm start).Every IsPlain := by
  have htext := kept_isPlain.every_text
  have hday := kept_isPlain.every_named [("slug", .text "day"), ("displayName", .text "Day"),
    ("type", .text "date"), ("initialValue", start)] (by simp) (by simp [htext, h])
  have hrule := kept_isPlain.every_named [("siteKey", .text "site"), ("secret", .text "shh")]
    (by simp)
    (by simp [htext])
  have hrules := kept_isPlain.every_named [("reCaptcha", _)] (by simp)
    (List.forall_mem_singleton.2 hrule)
  have hrobot := kept_isPlain.every_named [("slug", .text "robot"), ("displayName", .text "Robot"),
    ("type", .text "recaptcha"), ("validators", _)] (by simp)
    (List.forall_mem_cons.2
      ⟨htext _, List.forall_mem_cons.2 ⟨htext _, List.forall_mem_cons.2 ⟨htext _,
      List.forall_mem_singleton.2 hrules⟩⟩⟩)
  exact kept_isPlain.every_list (List.forall_mem_cons.2 ⟨hday, List.forall_mem_singleton.2 hrobot⟩)

/-- With the text of a date the form is published and read again. With the date itself, as an
unquoted date in a document is, the form is accepted and is not published. -/
theorem published_of_ofForm_startingForm :
    (∃ fields text d, ofForm (startingForm (.text "2024-06-15")) = .ok fields ∧
      published fields = .ok text ∧ readChars text.toList = .ok d ∧
      ofForm d = .ok (redactAll fields)) ∧
    ∃ day fields report, ofForm (startingForm (.date day)) = .ok fields ∧
      Definition.checkFields .none true fields = .ok report ∧ report.isValid = true ∧
      ¬ ∃ text, published fields = .ok text := by
  constructor
  · obtain ⟨fields, hfields⟩ : ∃ fields, ofForm (startingForm (.text "2024-06-15")) = .ok fields :=
      ⟨_, rfl⟩
    have hplain := every_startingForm (kept_isPlain.every_text "2024-06-15")
    obtain ⟨text, htext, d, hd, hagain⟩ := (published_of_ofForm hfields).2.2 hplain
    exact ⟨fields, text, d, hfields, htext, hd, hagain⟩
  · let day : Calendar.Date :=
      ⟨2024, 6, 15, by decide, by decide, by decide, by decide, by decide, by decide⟩
    have hread : ofForm (startingForm (.date day)) = .ok _ := rfl
    refine ⟨day, _, _, hread, rfl, rfl, fun hpublished => ?_⟩
    -- the date is found under the fourth name of the first field
    have hform := (published_of_ofForm hread).1.1 hpublished
    exact hform (.date day)
      (.element (.head _) (.under (.tail _ (.tail _ (.tail _ (.head _)))) .here))

end Command

end Intake
