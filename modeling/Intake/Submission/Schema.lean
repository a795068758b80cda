import Intake.Value.Display
import Intake.Value.Equality

/-! Schemas, the schema of submissions, and what is wrong with a value under a schema. -/

namespace Intake

inductive Kind where
  | text
  | number
  | bool
  | null
  | list
  | map
  deriving Repr, DecidableEq

def Kind.of? : Value → Option Kind
  | .null => some .null
  | .bool _ => some .bool
  | .int _ => some .number
  | .float _ => some .number
  | .text _ => some .text
  | .list _ => some .list
  | .map _ => some .map
  | _ => none

def Kind.name : Kind → String
  | .text => "'string'"
  | .number => "'number'"
  | .bool => "'boolean'"
  | .null => "'null'"
  | .list => "'array'"
  | .map => "'object'"

/-- Keywords of schemas. Those about members, lengths and elements ask nothing of a value that has
none. A reference stands for the schema that is defined under a name. -/
inductive Schema where
  | types (kinds : List Kind)
  | required (names : List String)
  | property (name : String) (schema : Schema)
  | minLength (least : Nat)
  | items (schema : Schema)
  | anyOf (schemas : List Schema)
  | allOf (schemas : List Schema)
  | reference (name : String)

namespace Submission

def scalarSchema : Schema := .types [.text, .number, .bool, .null]

def slugSchema : Schema := .allOf [.types [.text], .minLength 1]

def resultSchema : Schema :=
  .allOf [.types [.map], .required ["slug"], .property "slug" slugSchema,
    .property "value" (.reference "value")]

def elementSchema : Schema := .anyOf [.reference "scalar", .reference "fieldResult"]

def valueSchema : Schema :=
  .anyOf [.reference "scalar", .types [.map], .allOf [.types [.list], .items elementSchema]]

def definitions : String → Option Schema
  | "scalar" => some scalarSchema
  | "fieldResult" => some resultSchema
  | "value" => some valueSchema
  | _ => none

def submissionSchema : Schema := .allOf [.types [.list], .items (.reference "fieldResult")]

structure Issue where
  path : String
  message : String
  deriving Repr, DecidableEq

end Submission

namespace Schema
open Submission

/-- How many keywords are met at most before a part of a value is looked at. Under the names that
the schema of submissions defines there are fewer than the names count for. -/
def weight : Schema → Nat
  | .anyOf schemas => 1 + weights schemas
  | .allOf schemas => 1 + weights schemas
  | .reference name => if name == "scalar" then 1 else 7
  | _ => 0
where
  weights : List Schema → Nat
    | [] => 0
    | s :: ss => weight s + weights ss

theorem weight_lt_of_mem {s : Schema} {ss : List Schema} (h : s ∈ ss) :
    weight s < 1 + weight.weights ss := by
  induction ss with
  | nil => cases h
  | cons t ss ih =>
    rw [weight.weights]
    rcases List.mem_cons.1 h with rfl | h
    · omega
    · have := ih h
      omega

theorem weight_lt_of_definitions {name : String} {s : Schema} (h : definitions name = some s) :
    weight s < weight (.reference name) := by
  unfold definitions at h
  split at h <;> cases h <;> decide

theorem sizeOf_lt_of_field? {name : String} {es : List (Value × Value)} {v : Value}
    (h : Value.field? name es = some v) : sizeOf v < sizeOf (Value.map es) := by
  obtain ⟨e, he, rfl⟩ := Option.map_eq_some_iff.1 h
  have hlist := List.sizeOf_lt_of_mem (List.mem_of_find?_eq_some he)
  have hentry : sizeOf e.2 < sizeOf e := by
    rw [Prod.mk.sizeOf_spec]
    omega
  rw [Value.map.sizeOf_spec]
  omega

theorem sizeOf_lt_of_mem_zipIdx {xs : List Value} {e : Value × Nat} (h : e ∈ xs.zipIdx) :
    sizeOf e.1 < sizeOf (Value.list xs) := by
  have hlist := List.sizeOf_lt_of_mem (List.fst_mem_of_mem_zipIdx h)
  rw [Value.list.sizeOf_spec]
  omega

def issues (path : String) (s : Schema) (v : Value) : List Issue :=
  match s with
  | .types kinds =>
    if (Kind.of? v).any kinds.contains then []
    else [⟨path, v.describe ++ " is not of type " ++ ", ".intercalate (kinds.map Kind.name)⟩]
  | .required names =>
    match v with
    | .map es => (names.filter fun n => (Value.field? n es).isNone).map fun n =>
      ⟨path, s!"'{n}' is a required property"⟩
    | _ => []
  | .property name s =>
    match v with
    | .map es =>
      match _h : Value.field? name es with
      | some w => issues (path ++ "/" ++ name) s w
      | none => []
    | _ => []
  | .minLength least =>
    match v with
    | .text t =>
      if least ≤ t.length then []
      else [⟨path, v.describe ++ if least == 1 then " should be non-empty" else " is too short"⟩]
    | _ => []
  | .items s =>
    match v with
    | .list xs => xs.zipIdx.attach.flatMap fun e => issues (path ++ s!"[{e.1.2}]") s e.1.1
    | _ => []
  | .anyOf ss =>
    if (ss.map fun s => issues path s v).contains [] then []
    else [⟨path, v.describe ++ " is not valid under any of the given schemas"⟩]
  | .allOf ss => ss.flatMap fun s => issues path s v
  | .reference name =>
    match _h : definitions name with
    | some s => issues path s v
    | none => [⟨path, "Unresolvable: " ++ name⟩]
termination_by (sizeOf v, s.weight)
decreasing_by
  · exact .left _ _ (sizeOf_lt_of_field? _h)
  · exact .left _ _ (sizeOf_lt_of_mem_zipIdx e.2)
  · exact .right _ (weight_lt_of_mem ‹_›)
  · exact .right _ (weight_lt_of_mem ‹_›)
  · exact .right _ (weight_lt_of_definitions _h)

section
variable {path : String} {s : Schema} {ss : List Schema} {v : Value}

@[simp]
theorem issues_types {kinds : List Kind} : issues path (.types kinds) v =
    if (Kind.of? v).any kinds.contains then []
    else [⟨path, v.describe ++ " is not of type " ++
      ", ".intercalate (kinds.map Kind.name)⟩] := by
  rw [issues]

@[simp]
theorem issues_property_map {name : String} {es : List (Value × Value)} :
    issues path (.property name s) (.map es) =
      ((Value.field? name es).map (issues (path ++ "/" ++ name) s)).getD [] := by
  rw [issues]
  cases Value.field? name es <;> rfl

@[simp]
theorem issues_items_list {xs : List Value} : issues path (.items s) (.list xs) =
    xs.zipIdx.flatMap fun e => issues (path ++ s!"[{e.2}]") s e.1 := by
  rw [issues, List.flatMap_def, List.flatMap_def]
  exact congrArg List.flatten
    (List.attach_map_val (f := fun e : Value × Nat => issues (path ++ s!"[{e.2}]") s e.1))

@[simp]
theorem issues_anyOf : issues path (.anyOf ss) v =
    if [] ∈ ss.map (issues path · v) then []
    else [⟨path, v.describe ++ " is not valid under any of the given schemas"⟩] := by
  rw [issues]
  simp

@[simp]
theorem issues_allOf : issues path (.allOf ss) v = ss.flatMap fun s => issues path s v := by
  rw [issues]

theorem issues_reference {name : String} (h : definitions name = some s) :
    issues path (.reference name) v = issues path s v := by
  rw [issues]
  split <;> simp_all

theorem issues_reference_ne_nil {name : String} (h : definitions name = none) :
    issues path (.reference name) v ≠ [] := by
  rw [issues]
  split <;> simp_all

end

end Schema

end Intake
