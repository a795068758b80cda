import Intake.Definition.Rules
import Intake.Field.Document

/-! Whether a tree of fields makes sense: slugs and names, types, parts of groups and selects,
rules, and which fields may be public. -/

namespace Intake.Definition

def isSlugChar (c : Char) : Bool := c.isAlphanum || c == '_' || c == '-'

def isSlug (s : String) : Bool := s != "" && s.toList.all isSlugChar

/-- The slug to report a field under: its own when it is a text. -/
def reportedSlug (v : Value) : Value :=
  match v with
  | .text _ => v
  | _ => .null

def invalidSlug (slug : Value) : Except Fault Failure := do
  return ⟨reportedSlug slug, s!"Field \"{← slug.written}\" has an invalid slug. " ++
    "Slugs must be alphanumeric and may contain underscores and dashes.", "INVALID_SLUG"⟩

def slugFailures (seen : List String) (slug : Value) : Except Fault (List Failure × List String) :=
  let refused := do return ([← invalidSlug slug], seen)
  match slug with
  | .text s =>
    if !isSlug s then refused
    else if seen.contains s then
      .ok ([⟨slug, s!"Field \"{s}\" is declared more than once at the same level.",
        "DUPLICATE_SLUG"⟩], seen)
    else .ok ([], s :: seen)
  | _ => refused

/-- A failure that names the field by its slug, which has been written before if it is no text. -/
def fieldFailure (a : Attributes) (what code : String) : Failure :=
  ⟨reportedSlug a.slug, s!"Field \"{a.slug.display}\" {what}", code⟩

def nameFailures (a : Attributes) : List Failure :=
  if isFilledText a.displayName then []
  else [fieldFailure a "has an invalid display name." "INVALID_DISPLAY_NAME"]

def typeFailures (f : Field) : Except Fault (List Failure) :=
  match f with
  | .unknown v a => do
    return [fieldFailure a s!"has an invalid type: \"{← v.written}\"." "INVALID_TYPE"]
  | _ => .ok []

def choiceFailures (a : Attributes) (choices : List Choice) : List Failure :=
  (if choices.isEmpty then
    [fieldFailure a "is a select but has no options." "MISSING_OPTIONS"] else []) ++
  (choices.filter fun c => !isFilledText c.value).map fun _ =>
    fieldFailure a "has an invalid option." "INVALID_OPTION"

def variantFailures (f : Field) : List Failure :=
  match f with
  | .select a choices => choiceFailures a choices
  | .leaf .captcha a =>
    if a.rules.any (·.contains RuleKind.captcha.key) then []
    else [fieldFailure a "is a reCaptcha but has no validator." "MISSING_RECAPTCHA"]
  | _ => []

def commonFailures (names : Pattern.Names) (root : Bool) (a : Attributes) :
    Except Fault (List Failure) := do
  let rules ← match a.rules with
    | some b => bagFailures names b
    | none => pure []
  return rules ++ if a.isPublic && !root then
    [fieldFailure a ("is marked \"public\" but is not a top-level field. " ++
      "This option can only be used on top-level field elements.") "PUBLIC_NOT_ALLOWED"]
    else []

mutual

def fieldFailures (names : Pattern.Names) (root : Bool) (seen : List String) :
    Field → Except Fault (List Failure × List String)
  | .group a children => do
    let (slug, seen) ← slugFailures seen a.slug
    let below ← if children.isEmpty then
        pure [fieldFailure a "is a group but has no fields." "EMPTY_GROUP"]
      else siblingFailures names false [] children
    return (slug ++ nameFailures a ++ below ++ (← commonFailures names root a), seen)
  | .leaf t a => do
    let (slug, seen) ← slugFailures seen a.slug
    return (slug ++ nameFailures a ++ variantFailures (.leaf t a) ++
      (← commonFailures names root a), seen)
  | .unknown v a => do
    let (slug, seen) ← slugFailures seen a.slug
    let type ← typeFailures (.unknown v a)
    return (slug ++ nameFailures a ++ type ++ (← commonFailures names root a), seen)
  | .select a choices => do
    let (slug, seen) ← slugFailures seen a.slug
    return (slug ++ nameFailures a ++ variantFailures (.select a choices) ++
      (← commonFailures names root a), seen)
termination_by structural f => f

def siblingFailures (names : Pattern.Names) (root : Bool) (seen : List String) :
    List Field → Except Fault (List Failure)
  | [] => .ok []
  | f :: fs => do
    let (here, seen) ← fieldFailures names root seen f
    return here ++ (← siblingFailures names root seen fs)
termination_by structural fs => fs

end

/-- A field as it is given: in a document that is still to be read, or read already. -/
inductive Entry where
  | document (v : Value)
  | field (f : Field)

namespace Entry

def read : Entry → Except Fault Field
  | .document v => Field.ofValue v
  | .field f => .ok f

def slug : Entry → Value
  | .document (.map es) => reportedSlug (Value.fieldD "slug" es)
  | _ => .null

end Entry

def unreadable (position : Nat) (e : Entry) (cause : DefinitionCause) : Failure :=
  ⟨e.slug, s!"Field at position {position} is not a valid field definition: " ++ cause.message,
    "INVALID_FIELD"⟩

def entryFailures (names : Pattern.Names) (root : Bool) (position : Nat) (seen : List String) :
    List Entry → Except Fault (List Failure)
  | [] => .ok []
  | e :: es =>
    match e.read with
    | .ok f => do
      let (here, seen) ← fieldFailures names root seen f
      return here ++ (← entryFailures names root (position + 1) seen es)
    | .error (.definition c) => do
      return unreadable position e c :: (← entryFailures names root (position + 1) seen es)
    | .error f => .error f

def noFields : Report := ⟨[⟨.null, "No fields were provided.", "NO_FIELDS"⟩]⟩

def checkEntries (names : Pattern.Names) (root : Bool) (entries : List Entry) :
    Except Fault Report := do
  if entries.isEmpty then return noFields
  return ⟨← entryFailures names root 0 [] entries⟩

def checkFields (names : Pattern.Names) (root : Bool) (fields : List Field) : Except Fault Report :=
  checkEntries names root (fields.map .field)

def checkDocument (names : Pattern.Names) (root : Bool) : Value → Except Fault Report
  | .list vs => checkEntries names root (vs.map .document)
  | _ => .ok noFields

end Intake.Definition
