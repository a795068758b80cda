import Intake.Proofs.Documents

/-! What is found in values: in the elements of a list or tuple and in what stands in a map, at any
depth. Properties of all that is found in a value are kept where its parts are put together anew. -/

namespace Intake.Value

/-- A value is found in another: it is that value, or is found in an element of a list or tuple or
in what stands in a map. -/
inductive FoundIn (v : Value) : Value → Prop
  | here : FoundIn v v
  | element {xs : List Value} {x : Value} (hx : x ∈ xs) (h : FoundIn v x) : FoundIn v (.list xs)
  | part {xs : List Value} {x : Value} (hx : x ∈ xs) (h : FoundIn v x) : FoundIn v (.tuple xs)
  | under {es : List (Value × Value)} {e : Value × Value} (he : e ∈ es) (h : FoundIn v e.2) :
      FoundIn v (.map es)

def Every (p : Value → Prop) (v : Value) : Prop := ∀ x, FoundIn x v → p x

section
variable {p : Value → Prop} {xs : List Value} {es : List (Value × Value)}

theorem Every.here {v : Value} (h : v.Every p) : p v := h v .here

@[simp] theorem every_list_iff : Every p (.list xs) ↔ p (.list xs) ∧ ∀ x ∈ xs, x.Every p := by
  constructor
  · exact fun h => ⟨h.here, fun x hx y hy => h y (.element hx hy)⟩
  · rintro ⟨hself, h⟩ y hy
    cases hy with
    | here => exact hself
    | element hx hy => exact h _ hx y hy

@[simp] theorem every_tuple_iff : Every p (.tuple xs) ↔ p (.tuple xs) ∧ ∀ x ∈ xs, x.Every p := by
  constructor
  · exact fun h => ⟨h.here, fun x hx y hy => h y (.part hx hy)⟩
  · rintro ⟨hself, h⟩ y hy
    cases hy with
    | here => exact hself
    | part hx hy => exact h _ hx y hy

@[simp] theorem every_map_iff : Every p (.map es) ↔ p (.map es) ∧ ∀ e ∈ es, e.2.Every p := by
  constructor
  · exact fun h => ⟨h.here, fun e he y hy => h y (.under he hy)⟩
  · rintro ⟨hself, h⟩ y hy
    cases hy with
    | here => exact hself
    | under he hy => exact h _ he y hy

theorem every_iff_of_alone {v : Value} (helements : v.elements? = none) (hmap : v.isMap = false) :
    v.Every p ↔ p v := by
  refine ⟨Every.here, fun hself y hy => ?_⟩
  cases hy with
  | here => exact hself
  | element => cases helements
  | part => cases helements
  | under => cases hmap

theorem Every.fieldD (hnull : p .null) (h : Every p (.map es)) (name : String) :
    (Value.fieldD name es).Every p := by
  unfold Value.fieldD Value.field? lookup
  cases hfind : es.find? fun e => Value.equal (.text name) e.1 with
  | none => exact (every_iff_of_alone rfl rfl).2 hnull
  | some e => exact (every_map_iff.1 h).2 e (List.mem_of_find?_eq_some hfind)

end

end Intake.Value
