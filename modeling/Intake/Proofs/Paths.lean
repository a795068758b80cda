import Intake.Field.Paths
import Intake.Proofs.Definitions
import Intake.Proofs.Positions
import Mathlib.Data.List.Nodup

/-! Paths to file fields. A path joins the slugs on the way to a field. Slugs have no points, so
that the path can be split into them again, and siblings have different slugs, so that they lead to
no other field. -/

namespace Intake

variable {names : Pattern.Names}

namespace Text
open String String.Slice.Pattern String.Slice.Pattern.Model

section
variable {c : Char} {separator tail : String}

theorem not_matchesAt_of_ne (hstart : separator = singleton c ++ tail) {s : Slice} {pos : s.Pos}
    {d : Char} {before after : String} (hpos : pos.Splits before (singleton d ++ after))
    (hd : d ≠ c) : ¬ MatchesAt separator pos := by
  rw [ForwardStringSearcher.matchesAt_iff_splits]
  rintro ⟨before', after', hmatch⟩
  have heq := hpos.eq_right hmatch
  rw [hstart, String.append_assoc, singleton_append_inj] at heq
  exact hd heq.1

theorem exists_longestMatch {s : Slice} {pos : s.Pos} {before after : String}
    (hpos : pos.Splits before (separator ++ after)) :
    ∃ stop, IsLongestMatchAt separator pos stop ∧ stop.Splits (before ++ separator) after := by
  have hmatch : MatchesAt separator pos :=
    ForwardStringSearcher.matchesAt_iff_splits.2 ⟨_, _, hpos⟩
  obtain ⟨stop, hstop⟩ := matchesAt_iff_exists_isLongestMatchAt.1 hmatch
  obtain ⟨before', after', hbegin, hend⟩ :=
    ForwardStringSearcher.isLongestMatchAt_iff_splits.1 hstop
  obtain ⟨rfl, heq⟩ := hpos.eq hbegin
  obtain rfl := (append_right_inj separator).1 heq
  exact ⟨stop, hstop, hend⟩

theorem copy_subslice_next {s : Slice} {first pos : s.Pos} (h : pos ≠ s.endPos) (hle : first ≤ pos)
    (hle' : first ≤ pos.next h) : (s.subslice first (pos.next h) hle').copy =
      (s.subslice first pos hle).copy ++ singleton (pos.get h) := by
  have hcut := (Slice.splits_slice hle' (pos.slice first (pos.next h) hle (by simp))).eq_append
  simpa using hcut

theorem split_from [StrictPatternModel separator] (hstart : separator = singleton c ++ tail)
    {s : Slice} (first curr : s.Pos) (hle : first ≤ curr) {before part : String}
    {parts : List String} (hcurr : curr.Splits before (separator.intercalate (part :: parts)))
    (hparts : ∀ p ∈ part :: parts, c ∉ p.toList) :
    (Model.split separator first curr hle).map Slice.Subslice.copy =
      ((s.subslice first curr hle).copy ++ part) :: parts := by
  induction curr using WellFounded.induction Slice.Pos.wellFounded_gt
    generalizing first before part parts with
  | h curr ih =>
  obtain ⟨hpart, hrest⟩ := List.forall_mem_cons.1 hparts
  cases hchars : part.toList with
  | nil =>
    obtain rfl := String.toList_eq_nil_iff.1 hchars
    cases parts with
    | nil =>
      rw [intercalate_singleton] at hcurr
      obtain rfl := hcurr.eq_endPos_iff.2 rfl
      simp
    | cons next parts =>
      rw [intercalate_cons_cons, String.empty_append] at hcurr
      obtain ⟨stop, hstop, hafter⟩ := exists_longestMatch hcurr
      rw [split_eq_of_isLongestMatchAt hstop, List.map_cons,
        ih stop hstop.lt stop _ hafter hrest]
      simp
  | cons d ds =>
    obtain rfl : part = singleton d ++ ofList ds := by
      rw [← String.toList_inj, hchars]
      simp
    rw [String.toList_append, String.toList_singleton, List.singleton_append, List.mem_cons,
      not_or] at hpart
    rw [intercalate_cons_append] at hcurr
    have hne := hcurr.ne_endPos_of_singleton
    have hget : d = curr.get hne := by
      obtain ⟨after, hafter⟩ := hcurr.exists_eq_singleton_append hne
      exact (singleton_append_inj.1 hafter).1
    have hlater : ∀ p ∈ ofList ds :: parts, c ∉ p.toList := List.forall_mem_cons.2 ⟨hpart.2, hrest⟩
    rw [split_eq_next_of_not_matchesAt hne (not_matchesAt_of_ne hstart hcurr (Ne.symm hpart.1)),
      ih (curr.next hne) (by simp) first _ hcurr.next hlater, copy_subslice_next hne hle, ← hget,
      String.append_assoc]

theorem split_intercalate (hstart : separator = singleton c ++ tail) {part : String}
    {parts : List String} (hparts : ∀ p ∈ part :: parts, c ∉ p.toList) :
    ((separator.intercalate (part :: parts)).split separator).toList.map Slice.copy =
      part :: parts := by
  have hne : separator ≠ "" := by
    rintro rfl
    have hchars := congrArg String.toList hstart
    simp at hchars
  have hstrict := ForwardStringSearcher.strictPatternModel hne
  have hlawful := ForwardStringSearcher.lawfulToForwardSearcherModel hne
  have hbegin : (separator.intercalate (part :: parts)).toSlice.startPos.Splits ""
      (separator.intercalate (part :: parts)) := by
    simp
  rw [split_eq_split_toSlice, Slice.toList_split_eq_splitToSubslice, List.map_map,
    toList_splitToSubslice_eq_modelSplit, ← Slice.Subslice.copy_eq,
    split_from hstart _ _ _ hbegin hparts]
  simp

end

end Text

namespace Field

def pathInto (path : String) (g : Field) : String := pathStart path ++ g.slug.display ++ ".[]"

/-- The path to a position. -/
def pathTo (path : String) (p : Position) : String :=
  pathStart (p.groups.foldl pathInto path) ++ p.field.slug.display

mutual

theorem filePaths_eq (path : String) (i : Nat) (f : Field) : filePaths path f =
    ((⟨[i], [], f⟩ :: positionsBelow i f).filter (·.field.isFile)).map (pathTo path) := by
  match f with
  | .group a children =>
    unfold filePaths positionsBelow
    rw [filePathsOf_eq _ 0 children, List.filter_cons_of_neg (by nofun), List.filter_map,
      List.map_map]
    rfl
  | .leaf t a => cases t <;> rfl
  | .unknown _ _ | .select _ _ => rfl
termination_by structural f

/-- The paths are those to the positions of files. -/
theorem filePathsOf_eq (path : String) (i : Nat) (fs : List Field) : filePathsOf path fs =
    ((positionsFrom i fs).filter (·.field.isFile)).map (pathTo path) := by
  match fs with
  | [] => rfl
  | f :: fs =>
    rw [filePathsOf, filePaths_eq path i f, filePathsOf_eq path (i + 1) fs, positionsFrom,
      ← List.cons_append, List.filter_append, List.map_append]
termination_by structural fs

end

theorem pathStart_pathInto (path : String) (g : Field) :
    pathStart (pathInto path g) = pathStart path ++ g.slug.display ++ ".[]." := by
  have hne : (pathInto path g == "") = false := by
    rw [beq_eq_false_iff_ne]
    intro h
    simpa [pathInto] using congrArg String.toList h
  unfold pathStart
  rw [hne]
  unfold pathInto
  rw [String.append_assoc]
  rfl

theorem pathTo_eq (path : String) (groups : List Field) (f : Field) :
    pathStart (groups.foldl pathInto path) ++ f.slug.display = pathStart path ++
      ".[].".intercalate ((groups ++ [f]).map (·.slug.display)) := by
  induction groups generalizing path with
  | nil => rw [List.nil_append, List.map_singleton, String.intercalate_singleton, List.foldl_nil]
  | cons g groups ih =>
    have hrest : (groups ++ [f]).map (·.slug.display) ≠ [] := by simp
    rw [List.foldl_cons, ih, pathStart_pathInto, List.cons_append, List.map_cons,
      String.intercalate_cons_of_ne_nil hrest]
    simp only [String.append_assoc]

theorem pathTo_top (p : Position) :
    pathTo "" p = ".[].".intercalate (p.chain.map (·.slug.display)) := by
  have hstart : pathStart "" = "" := rfl
  unfold pathTo
  rw [pathTo_eq, hstart, String.empty_append]
  rfl

theorem WellFormed.display_slug {f : Field} (h : f.WellFormed names) :
    f.slug = .text f.slug.display ∧ '.' ∉ f.slug.display.toList := by
  obtain ⟨s, hs, _, hchars⟩ := h.slug
  rw [hs]
  refine ⟨rfl, fun hpoint => ?_⟩
  rcases hchars '.' hpoint with h | h | h
  · exact absurd h (by decide)
  · exact absurd h (by decide)
  · exact absurd h (by decide)

theorem split_pathTo {fields : List Field}
    (hfields : ∀ siblings, Layer fields siblings → ∀ f ∈ siblings, f.WellFormed names)
    {p : Position}
    (hp : p.In fields) :
    (((pathTo "" p).split ".[].").toList.map fun piece => Value.text piece.copy) =
      p.chain.map slug := by
  have hslugs : ∀ f ∈ p.chain, f.slug = .text f.slug.display ∧ '.' ∉ f.slug.display.toList := by
    intro f hf
    obtain ⟨siblings, hlayer, hf⟩ := hp.exists_layer f hf
    exact (hfields siblings hlayer f hf).display_slug
  have hchain : p.chain ≠ [] := by simp [Position.chain]
  obtain ⟨first, rest, hfirst⟩ := List.exists_cons_of_ne_nil hchain
  have hparts : ∀ s ∈ p.chain.map (·.slug.display), '.' ∉ s.toList :=
    List.forall_mem_map.2 fun f hf => (hslugs f hf).2
  have hsplit : ((pathTo "" p).split ".[].").toList.map String.Slice.copy =
      p.chain.map (·.slug.display) := by
    have hseparator : ".[]." = String.singleton '.' ++ "[]." := rfl
    rw [pathTo_top]
    rw [hfirst] at hparts ⊢
    exact Text.split_intercalate hseparator hparts
  calc (((pathTo "" p).split ".[].").toList.map fun piece => Value.text piece.copy)
      = (((pathTo "" p).split ".[].").toList.map String.Slice.copy).map Value.text := by
        rw [List.map_map]; rfl
    _ = (p.chain.map (·.slug.display)).map Value.text := by rw [hsplit]
    _ = p.chain.map slug := by
        rw [List.map_map]
        exact List.map_congr_left fun f hf => (hslugs f hf).1.symm

end Field

namespace Definition
open Intake.Field

/-- In accepted fields there is exactly one path to each file, in the order of the fields and with
groups entered where they stand; no two are the same, and each can be split into the slugs of the
groups around the file and its own. -/
theorem filePathsOf_identify {root : Bool} {fields : List Field} {report : Report}
    (h : checkFields names root fields = .ok report) (hvalid : report.isValid = true) :
    (filePathsOf "" fields).Nodup ∧ ∃ files : List Position,
      (∀ p, p ∈ files ↔ p.In fields ∧ p.field.isFile = true) ∧
      files.Pairwise (·.indices < ·.indices) ∧
      List.Forall₂ (fun path p => ((path.split ".[].").toList.map fun piece =>
        Value.text piece.copy) = (p.groups ++ [p.field]).map slug)
        (filePathsOf "" fields) files := by
  have haccepts := accepts_of_checkFields h hvalid
  let files := (positions fields).filter (·.field.isFile)
  have hfiles : ∀ p, p ∈ files ↔ p.In fields ∧ p.field.isFile = true := by
    intro p
    rw [List.mem_filter, mem_positions_iff]
  have hordered : files.Pairwise (·.indices < ·.indices) := (positions_ordered fields).filter _
  have hpaths : filePathsOf "" fields = files.map (pathTo "") := filePathsOf_eq "" 0 fields
  have hsplit : ∀ p ∈ files, (((pathTo "" p).split ".[].").toList.map fun piece =>
      Value.text piece.copy) = p.chain.map slug := fun p hp =>
    split_pathTo (fun _ => haccepts.wellFormed) ((hfiles p).1 hp).1
  refine ⟨?_, files, hfiles, hordered, ?_⟩
  · -- equal paths split into equal slugs, which lead to one position
    have hdistinct : files.Nodup := hordered.imp fun hlt heq => by
      rw [heq] at hlt
      exact List.lt_irrefl _ hlt
    rw [hpaths]
    refine hdistinct.map_on fun p hp q hq heq => ?_
    have hslugs : p.chain.map slug = q.chain.map slug := by
      rw [← hsplit p hp, ← hsplit q hq, heq]
    exact ((hfiles p).1 hp).1.eq_of_slugs (fun _ => haccepts.distinct) ((hfiles q).1 hq).1 hslugs
  · rw [hpaths, List.forall₂_map_left_iff, List.forall₂_same]
    exact hsplit

def travel : List Field :=
  [.leaf .file (.ofRules "resume" []), .group (.ofRules "documents" [])
    [.leaf .text (.ofRules "number" []), .leaf .file (.ofRules "passport" [])]]

/-- Both paths are found, each for a file. -/
theorem filePathsOf_identify_travel :
    ∃ report, checkFields .none true travel = .ok report ∧ report.isValid = true ∧
      filePathsOf "" travel = ["resume", "documents.[].passport"] ∧
      (filePathsOf "" travel).Nodup ∧ ∃ files : List Position, files.length = 2 ∧
        ∀ p, p ∈ files ↔ p.In travel ∧ p.field.isFile = true := by
  have hvalid : (checkFields .none true travel).toOption.map Report.isValid = some true := by
    decide +kernel
  obtain ⟨report, hreport, hvalid⟩ := exists_of_toOption hvalid
  obtain ⟨hdistinct, files, hfiles, _, hpaths⟩ := filePathsOf_identify hreport hvalid
  have hpair : filePathsOf "" travel = ["resume", "documents.[].passport"] := rfl
  have hlength := hpaths.length_eq
  rw [hpair] at hlength
  exact ⟨report, hreport, hvalid, hpair, hdistinct, files, hlength.symm, hfiles⟩

end Definition

end Intake
