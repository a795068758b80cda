import Intake.Field.Basic

/-! Fields as they stand in documents: a map with the slug, the names, the type and what else is
given. Reading refuses what has not the right shape; writing leaves out what is not given. -/

namespace Intake

namespace Choice

def ofValue : Value → Except Fault Choice
  | .map es => .ok ⟨Value.fieldD "value" es, Value.fieldD "name" es⟩
  | v => .error (DefinitionCause.option v).toFault

def toEntries (c : Choice) : List (Value × Value) :=
  (.text "value", c.value) :: if c.name.isNull then [] else [(.text "name", c.name)]

def toValue (c : Choice) : Value := .map c.toEntries

end Choice

def listOr (refuse : DefinitionCause) (raw : Value) : Except Fault (List Value) :=
  if !raw.truthy then .ok []
  else match raw with
    | .list xs => .ok xs
    | _ => .error refuse.toFault

def Attributes.ofEntries (es : List (Value × Value)) : Except Fault Attributes := do
  let slug := Value.fieldD "slug" es
  let rules ← match Value.fieldD "validators" es with
    | .null => pure none
    | .map rules => pure (some rules)
    | _ => throw (DefinitionCause.validators slug).toFault
  let suggestions ← listOr (.suggestions slug) (Value.fieldD "suggestions" es)
  return {
    slug := (Value.field? "slug" es).getD (.text "")
    displayName := (Value.field? "displayName" es).getD (.text "")
    description := Value.fieldD "description" es
    placeholder := Value.fieldD "placeholderValue" es
    initial := Value.fieldD "initialValue" es
    suggestions := ← suggestions.mapM Choice.ofValue
    allowMultiple := (Value.fieldD "allowMultiple" es).truthy
    rules := rules.map RuleBag.ofEntries
    isPublic := (Value.fieldD "public" es).isTrue }

namespace Field

def ofEntries (es : List (Value × Value)) (children : Unit → Except Fault (List Field)) :
    Except Fault Field := do
  let a ← Attributes.ofEntries es
  let type := Value.fieldD "type" es
  match FieldType.ofValue? type with
  | some .group =>
    let _ ← listOr (.children a.slug) (Value.fieldD "fields" es)
    return .group a (← children ())
  | some .select =>
    let choices ← listOr (.choices a.slug) (Value.fieldD "options" es)
    return .select a (← choices.mapM Choice.ofValue)
  | some (.leaf t) => return .leaf t a
  | none => return .unknown (← type.asKey) a

mutual

def ofValue : Value → Except Fault Field
  | .map es => ofEntries es fun _ => childrenIn es
  | v => .error (.definition (.field v))
termination_by structural v => v

def childrenIn : List (Value × Value) → Except Fault (List Field)
  | [] => .ok []
  | (k, v) :: es =>
    if Value.equal (.text "fields") k then ofListValue v else childrenIn es
termination_by structural es => es

def ofListValue : Value → Except Fault (List Field)
  | .list xs => ofValues xs
  | _ => .ok []
termination_by structural v => v

def ofValues : List Value → Except Fault (List Field)
  | [] => .ok []
  | x :: xs => do
    let f ← ofValue x
    return f :: (← ofValues xs)
termination_by structural xs => xs

end

def ofItems (v : Value) : Except Fault (List Field) := do ofValues (← v.items)

def entry (name : String) (v : Value) : List (Value × Value) :=
  if v.isNull then [] else [(.text name, v)]

def commonEntries (type : Value) (a : Attributes) : List (Value × Value) :=
  [(.text "slug", a.slug), (.text "displayName", a.displayName), (.text "type", type)] ++
    entry "description" a.description ++ entry "placeholderValue" a.placeholder ++
    entry "initialValue" a.initial ++
    (if a.suggestions.isEmpty then []
      else [(.text "suggestions", .list (a.suggestions.map Choice.toValue))]) ++
    (if a.allowMultiple then [(.text "allowMultiple", .bool true)] else []) ++
    (match a.rules with
      | some b => [(.text "validators", b.toValue)]
      | none => []) ++
    (if a.isPublic then [(.text "public", .bool true)] else [])

mutual

def toEntries : Field → List (Value × Value)
  | .leaf t a => commonEntries (.text (FieldType.name (.leaf t))) a
  | .unknown v a => commonEntries v a
  | .group a children =>
    commonEntries (.text "group") a ++ [(.text "fields", .list (toValues children))]
  | .select a choices =>
    commonEntries (.text "select") a ++ [(.text "options", .list (choices.map Choice.toValue))]
termination_by structural f => f

def toValues : List Field → List Value
  | [] => []
  | f :: fs => .map (toEntries f) :: toValues fs
termination_by structural fs => fs

end

def toValue (f : Field) : Value := .map f.toEntries

end Field

end Intake
