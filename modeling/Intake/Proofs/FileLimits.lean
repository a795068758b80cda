import Intake.Proofs.Numbers

/-! What the check of uploaded files lets pass: a payload that is not empty, of a size that the
greatest one covers, and of a media type that is not empty and listed. -/

namespace Intake
open Number Number.Binary64

namespace Value

def length? : Value → Option Nat
  | .text s => some s.length
  | .bytes bs => some bs.length
  | .list xs => some xs.length
  | .tuple xs => some xs.length
  | .map es => some es.length
  | _ => none

/-- A text is listed: as an element, or as a key of a map. -/
def Lists (types : Value) (s : String) : Prop :=
  match types with
  | .list xs => .text s ∈ xs
  | .tuple xs => .text s ∈ xs
  | .map es => .text s ∈ es.map (·.1)
  | _ => False

def isListing : Value → Bool
  | .list _ | .tuple _ | .map _ => true
  | _ => false

/-- A limit is a number, and a size is not above it. -/
def Covers (limit : Value) (size : Nat) : Prop :=
  ∃ x p, limit.toNumber = .ok (some x) ∧ x.place? = some p ∧ .of size ≤ p

theorem truthy_iff_of_length? {v : Value} {length : Nat} (h : v.length? = some length) :
    v.truthy = true ↔ length ≠ 0 := by
  cases v with
  | text s =>
    cases h
    simp [truthy, String.length_eq_zero_iff]
  | bytes bs | list bs | tuple bs | map bs =>
    cases h
    simp [truthy]
  | _ => cases h

theorem isIn_of_isListing (s : String) {types : Value} (h : types.isListing = true) :
    ∃ found, (Value.text s).isIn types = .ok found ∧ (found = true ↔ types.Lists s) := by
  cases types with
  | list xs | tuple xs => exact ⟨_, rfl, by simp [Lists]⟩
  | map es =>
    refine ⟨containsKey (.text s) es, rfl, ?_⟩
    unfold containsKey lookup
    simp [Lists, List.find?_isSome]
  | _ => cases h

@[simp] theorem isNull_iff {v : Value} : v.isNull = true ↔ v = .null := by
  cases v <;> simp [isNull]

theorem covers_iff {limit : Value} {x : Binary64} {p : Place} (h : limit.toNumber = .ok (some x))
    (hp : x.place? = some p) (size : Nat) :
    limit.Covers size ↔ .of size ≤ p := by
  constructor
  · rintro ⟨x', p', h', hp', hle⟩
    rw [h] at h'
    cases h'
    rw [hp] at hp'
    cases hp'
    exact hle
  · exact fun hle => ⟨x, p, h, hp, hle⟩

theorem not_covers_of_none {limit : Value} (h : limit.toNumber = .ok none) (size : Nat) :
    ¬ limit.Covers size := by
  rintro ⟨x, p, h', -⟩
  rw [h] at h'
  cases h'

end Value

namespace Check

theorem sizeFits_spec {maxBytes : Value} {limit : Option Binary64}
    (hlimit : maxBytes.toNumber = .ok limit) (size : Nat) :
    ∃ fits, sizeFits (.int size) maxBytes = .ok fits ∧
      (fits = true ↔ size ≠ 0 ∧ maxBytes.Covers size) := by
  unfold sizeFits
  rw [hlimit, ok_bind]
  by_cases hsize : size = 0
  · rw [if_pos (by simp [Value.truthy, hsize])]
    exact ⟨false, rfl, iff_of_false Bool.false_ne_true fun h => h.1 hsize⟩
  · rw [if_neg (by simp [Value.truthy, hsize]), and_iff_right hsize]
    cases limit with
    | none =>
      have hnone := Value.not_covers_of_none hlimit size
      exact ⟨false, rfl, iff_of_false Bool.false_ne_true hnone⟩
    | some x =>
      obtain ⟨p, hp⟩ := Value.exists_place_of_toNumber hlimit
      have hgt : (Numeric.int size).gt (.float x) = true ↔ p < .of size := by
        rw [Numeric.gt_iff (a := .int size) (b := .float x) rfl hp, Int.cast_natCast]
      refine ⟨!(Numeric.int size).gt (.float x), rfl, ?_⟩
      rw [Value.covers_iff hlimit hp, Bool.not_eq_true', ← Bool.not_eq_true, hgt, not_lt]

theorem sizeCheck_spec {maxBytes : Value} {limit : Option Binary64}
    (hlimit : maxBytes.toNumber = .ok limit) (size : Nat) :
    ∃ tooLarge, (if maxBytes.isNull then pure false else not <$> sizeFits (.int size) maxBytes) =
        (.ok tooLarge : Except Fault Bool) ∧
      (tooLarge = false ↔ (maxBytes ≠ .null → size ≠ 0 ∧ maxBytes.Covers size)) := by
  by_cases hnull : maxBytes = .null
  · rw [if_pos (Value.isNull_iff.2 hnull)]
    exact ⟨false, rfl, iff_of_true rfl fun hne => absurd hnull hne⟩
  · obtain ⟨fits, hfits, hcovers⟩ := sizeFits_spec hlimit size
    rw [if_neg (mt Value.isNull_iff.1 hnull), hfits]
    refine ⟨!fits, rfl, ?_⟩
    rw [Bool.not_eq_false', hcovers, imp_iff_right hnull]

def typeRefused (mimetype mimeTypes : Value) : Except Fault Bool :=
  if mimeTypes.isNull then pure false
  else if !mimetype.truthy then pure true
  else not <$> mimetype.isIn mimeTypes

theorem typeRefused_eq {mimeTypes : Value} {type : String} (hnull : mimeTypes ≠ .null)
    (htype : type ≠ "") :
    typeRefused (.text type) mimeTypes = not <$> (Value.text type).isIn mimeTypes := by
  unfold typeRefused
  rw [if_neg (mt Value.isNull_iff.1 hnull), if_neg (by simp [Value.truthy, htype])]

theorem typeRefused_spec {mimeTypes : Value} (type : String)
    (h : mimeTypes ≠ .null → mimeTypes.isListing = true) :
    ∃ wrongType, typeRefused (.text type) mimeTypes = .ok wrongType ∧
      (wrongType = false ↔ (mimeTypes ≠ .null → type ≠ "" ∧ mimeTypes.Lists type)) := by
  by_cases hnull : mimeTypes = .null
  · subst hnull
    exact ⟨false, rfl, iff_of_true rfl fun hne => absurd rfl hne⟩
  rw [imp_iff_right hnull]
  by_cases hempty : type = ""
  · refine ⟨true, ?_, iff_of_false Bool.false_ne_true.symm fun h => h.1 hempty⟩
    unfold typeRefused
    rw [if_neg (mt Value.isNull_iff.1 hnull), if_pos (by simp [Value.truthy, hempty])]
    rfl
  · obtain ⟨found, hfound, hlists⟩ := Value.isIn_of_isListing type (h hnull)
    rw [typeRefused_eq hnull hempty, hfound]
    refine ⟨!found, rfl, ?_⟩
    rw [Bool.not_eq_false', hlists, and_iff_right hempty]

def fileMessages (isFull tooLarge wrongType : Bool) (sizeText typeText : Except Fault String) :
    Except Fault (List String) := do
  let sizeMessage ← messageIf tooLarge sizeText
  let typeMessage ← messageIf wrongType typeText
  return (if isFull then [] else ["File is empty."]) ++ sizeMessage ++ typeMessage

@[simp] theorem fileMessages_eq_nil_iff {isFull tooLarge wrongType : Bool}
    {sizeText typeText : Except Fault String} :
    fileMessages isFull tooLarge wrongType sizeText typeText = .ok [] ↔
      isFull = true ∧ tooLarge = false ∧ wrongType = false := by
  cases tooLarge <;> cases wrongType <;> cases sizeText <;> cases typeText <;>
    simp [fileMessages, messageIf, bind, Except.bind, pure, Except.pure]

theorem file_eq {u : Upload} (mimeTypes : Value) {maxBytes : Value} (extra : List (Value × Value))
    {tooLarge : Bool}
    (hlarge : (if maxBytes.isNull then pure false else not <$> sizeFits u.size maxBytes) =
      (.ok tooLarge : Except Fault Bool)) :
    file (some u) (.options ⟨.file mimeTypes maxBytes, extra⟩) =
      typeRefused u.mimetype mimeTypes >>= fun wrongType =>
        fileMessages u.payload.truthy tooLarge wrongType
          (do return s!"File size \"{← u.size.written}\" exceeds the maximum limit of: " ++
            s!"{← maxBytes.written} bytes")
          (do return s!"File has an invalid mime-type: {← u.mimetype.written}") := by
  have hlimits : fileLimits (.options ⟨.file mimeTypes maxBytes, extra⟩) =
      .ok (mimeTypes, maxBytes) := rfl
  unfold file typeRefused
  simp only [hlimits, Option.map_some, Option.getD_some, ite_bind_eq, ok_bind]
  rw [hlarge, ok_bind]
  rfl

theorem fileMessages_of_written {isFull tooLarge wrongType : Bool} {sizeText typeText : String} :
    ∃ messages, fileMessages isFull tooLarge wrongType (.ok sizeText) (.ok typeText) =
      .ok messages := by
  unfold fileMessages
  rw [messageIf_ok, messageIf_ok]
  exact ⟨_, rfl⟩

theorem exists_toNumber_of_accepted {names : Pattern.Names} {mimeTypes maxBytes : Value}
    {extra : List (Value × Value)}
    (h : Definition.ruleFailures names RuleKind.file.key
      (.options ⟨.file mimeTypes maxBytes, extra⟩) = .ok []) :
    ∃ limit, maxBytes.toNumber = .ok limit := by
  obtain ⟨kind, hkind, hrule⟩ := (Definition.ruleFailures_eq_nil_iff h).1 rfl
  obtain rfl := RuleKind.key_injective hkind
  obtain ⟨o, ho, hsuits⟩ := hrule
  cases ho
  obtain ⟨limit, hlimit, -⟩ := hsuits
  exact ⟨limit, hlimit⟩

theorem covers_int_iff {k : Int} {limit : Option Binary64} (h : (Value.int k).toNumber = .ok limit)
    {size : Nat} (hsmall : size ≤ 2 ^ 53 ∨ |k| ≤ 2 ^ 53) :
    (Value.int k).Covers size ↔ (size : Int) ≤ k := by
  obtain ⟨v, hv, -⟩ := Value.exists_roundsTo_of_toNumber h
  rw [Value.covers_iff (Value.toNumber_int hv) hv.place, Place.of_strictMono.le_iff_le]
  exact natCast_le_rounded_iff hv hsmall

/-- An upload passes an accepted rule when its payload is not empty, its size is not above the limit
as a binary number, and its media type is not empty and listed. The check says so, or what is wrong,
whenever the size and the limit can be written. -/
theorem file_passes_iff {names : Pattern.Names} {mimeTypes maxBytes : Value}
    {extra : List (Value × Value)}
    (haccepted : Definition.ruleFailures names RuleKind.file.key
      (.options ⟨.file mimeTypes maxBytes, extra⟩) = .ok [])
    (hlisting : mimeTypes ≠ .null → mimeTypes.isListing = true)
    {u : Upload} {type : String} {length : Nat} (hmimetype : u.mimetype = .text type)
    (hpayload : u.payload.length? = some length) (hsize : u.size = .int length) :
    (file (some u) (.options ⟨.file mimeTypes maxBytes, extra⟩) = .ok [] ↔
      length ≠ 0 ∧ (maxBytes ≠ .null → maxBytes.Covers length) ∧
        (mimeTypes ≠ .null → type ≠ "" ∧ mimeTypes.Lists type)) ∧
    (∀ k, maxBytes = .int k → length ≤ 2 ^ 53 ∨ |k| ≤ 2 ^ 53 →
      (maxBytes.Covers length ↔ (length : Int) ≤ k)) ∧
    (u.size.isWritable = true → maxBytes.isWritable = true →
      ∃ messages, file (some u) (.options ⟨.file mimeTypes maxBytes, extra⟩) = .ok messages) := by
  obtain ⟨limit, hlimit⟩ := exists_toNumber_of_accepted haccepted
  obtain ⟨tooLarge, hlarge, hcovers⟩ := sizeCheck_spec hlimit length
  obtain ⟨wrongType, hwrong, hlists⟩ := typeRefused_spec type hlisting
  rw [← hsize] at hlarge
  have hfile := file_eq mimeTypes extra hlarge
  rw [hmimetype, hwrong, ok_bind] at hfile
  refine ⟨?_, fun k hk hsmall => ?_, fun hwritable hlimitWritable => ?_⟩
  · rw [hfile, fileMessages_eq_nil_iff, Value.truthy_iff_of_length? hpayload, hcovers, hlists]
    exact and_congr_right fun hne => and_congr_left fun _ =>
      imp_congr_right fun _ => and_iff_right hne
  · subst hk
    exact covers_int_iff hlimit hsmall
  · have htype : (Value.text type).written = .ok type := rfl
    rw [hfile, Value.written_eq hwritable, Value.written_eq hlimitWritable, htype]
    exact fileMessages_of_written

def fileRule (mimeTypes maxBytes : Value) : Rule := .options ⟨.file mimeTypes maxBytes, []⟩

def oneByte (mimetype : String) : Upload :=
  ⟨.text "doc", .text mimetype, .int 1, .bytes [120], .text "a"⟩

theorem file_passes_pdf :
    Definition.ruleFailures .none RuleKind.file.key
        (fileRule (.list [.text "application/pdf"]) (.int 100)) = .ok [] ∧
      file (some (oneByte "application/pdf"))
        (fileRule (.list [.text "application/pdf"]) (.int 100)) = .ok [] := by
  have haccepted : Definition.ruleFailures .none RuleKind.file.key
      (fileRule (.list [.text "application/pdf"]) (.int 100)) = .ok [] := rfl
  obtain ⟨hpasses, hcovers, -⟩ :=
    file_passes_iff haccepted (fun _ => rfl) (u := oneByte "application/pdf") rfl rfl rfl
  have hsize : (Value.int 100).Covers 1 := (hcovers 100 rfl (.inl (by decide))).2 (by decide)
  exact ⟨haccepted, hpasses.2
    ⟨by decide, fun _ => hsize, fun _ => ⟨by decide, List.mem_singleton_self _⟩⟩⟩

/-- A media type that is listed is refused when it is empty, and a size of one is let pass by a
limit below one that is rounded to it. -/
theorem file_apart_from_rule :
    (∀ r ∈ [fileRule (.list [.text ""]) .null, fileRule .null (.text "0.99999999999999999999")],
      (Definition.ruleFailures .none RuleKind.file.key r).toOption.map List.isEmpty =
        some true) ∧
    (file (some (oneByte "")) (fileRule (.list [.text ""]) .null)).toOption =
      some ["File has an invalid mime-type: "] ∧
    (file (some (oneByte "text/plain"))
      (fileRule .null (.text "0.99999999999999999999"))).toOption = some [] := by
  decide +kernel

end Check

end Intake
