import Intake.Proofs.Levels

/-! Where fields stand. A position is told by the indices that lead to it among siblings, level
after level. All positions in a tree of fields can be listed with every group before what is inside
it, which is the order of their indices. -/

namespace Intake

/-- A place in a tree of fields: the indices that lead there from the top, the groups that are
passed on the way, and the field that stands there. -/
structure Position where
  indices : List Nat
  groups : List Field
  field : Field

namespace Position

def under (i : Nat) (g : Field) (p : Position) : Position :=
  ⟨i :: p.indices, g :: p.groups, p.field⟩

def chain (p : Position) : List Field := p.groups ++ [p.field]

inductive In : List Field → Position → Prop
  | top {fields : List Field} {i : Nat} {f : Field} (h : fields[i]? = some f) :
      In fields ⟨[i], [], f⟩
  | inside {fields children : List Field} {i : Nat} {a : Attributes} {p : Position}
      (h : fields[i]? = some (.group a children)) (hp : In children p) :
      In fields (p.under i (.group a children))

variable {fields : List Field} {p q : Position}

theorem In.exists_layer (h : p.In fields) :
    ∀ f ∈ p.chain, ∃ siblings, Field.Layer fields siblings ∧ f ∈ siblings := by
  induction h with
  | @top fields i f h =>
    intro g hg
    obtain rfl := List.mem_singleton.1 hg
    exact ⟨fields, .top fields, List.mem_of_getElem? h⟩
  | @inside fields children i a p h _ ih =>
    have hgroup := List.mem_of_getElem? h
    refine List.forall_mem_cons.2 ⟨⟨fields, .top fields, hgroup⟩, fun g hg => ?_⟩
    obtain ⟨siblings, hlayer, hg⟩ := ih g hg
    exact ⟨siblings, .inside hgroup hlayer, hg⟩

theorem eq_of_slug_eq (h : (fields.map Field.slug).Nodup) {i j : Nat} {f g : Field}
    (hf : fields[i]? = some f) (hg : fields[j]? = some g) (hslug : f.slug = g.slug) :
    i = j ∧ f = g := by
  have hi : i < (fields.map Field.slug).length := by
    rw [List.length_map]
    exact (List.getElem?_eq_some_iff.1 hf).1
  have hij : i = j := by
    apply (List.getElem?_inj hi h).1
    rw [List.getElem?_map, List.getElem?_map, hf, hg, Option.map_some, Option.map_some, hslug]
  subst hij
  exact ⟨rfl, Option.some.inj (hf.symm.trans hg)⟩

theorem In.eq_of_slugs (hdistinct : ∀ siblings, Field.Layer fields siblings →
      (siblings.map Field.slug).Nodup) (hp : p.In fields) (hq : q.In fields)
    (hslugs : p.chain.map Field.slug = q.chain.map Field.slug) : p = q := by
  induction hp generalizing q with
  | top hf =>
    cases hq with
    | top hg =>
      have hslug := (List.cons.inj hslugs).1
      obtain ⟨rfl, rfl⟩ := eq_of_slug_eq (hdistinct _ (.top _)) hf hg hslug
      rfl
    | inside _ _ => simp [chain, under] at hslugs
  | inside hf _ ih =>
    cases hq with
    | top _ => simp [chain, under] at hslugs
    | inside hg hq =>
      obtain ⟨hslug, hrest⟩ := List.cons.inj hslugs
      obtain ⟨rfl, hgroup⟩ := eq_of_slug_eq (hdistinct _ (.top _)) hf hg hslug
      obtain ⟨rfl, rfl⟩ := Field.group.inj hgroup
      have hinside := fun siblings hs => hdistinct siblings (.inside (List.mem_of_getElem? hf) hs)
      rw [ih hinside hq hrest]

end Position

namespace Field

mutual

def positionsBelow (i : Nat) : Field → List Position
  | .group a children => (positionsFrom 0 children).map (Position.under i (.group a children))
  | _ => []
termination_by structural f => f

def positionsFrom (i : Nat) : List Field → List Position
  | [] => []
  | f :: fs => ⟨[i], [], f⟩ :: (positionsBelow i f ++ positionsFrom (i + 1) fs)
termination_by structural fs => fs

end

def positions (fields : List Field) : List Position := positionsFrom 0 fields

mutual

theorem in_of_mem_positionsBelow {i : Nat} {f : Field} {fields : List Field}
    (hf : fields[i]? = some f) {p : Position} (hp : p ∈ positionsBelow i f) : p.In fields := by
  match f with
  | .group a children =>
    obtain ⟨q, hq, rfl⟩ := List.mem_map.1 hp
    exact .inside hf (in_of_mem_positionsFrom List.drop_zero hq)
  | .leaf _ _ | .unknown _ _ | .select _ _ => cases hp
termination_by structural f

theorem in_of_mem_positionsFrom {i : Nat} {fs fields : List Field} (hfs : fields.drop i = fs)
    {p : Position} (hp : p ∈ positionsFrom i fs) : p.In fields := by
  match fs with
  | [] => cases hp
  | f :: fs =>
    have hf : fields[i]? = some f := by
      rw [← List.head?_drop, hfs, List.head?_cons]
    have hrest : fields.drop (i + 1) = fs := by
      rw [← List.tail_drop, hfs, List.tail_cons]
    rcases List.mem_cons.1 hp with rfl | hp
    · exact .top hf
    rcases List.mem_append.1 hp with hp | hp
    · exact in_of_mem_positionsBelow hf hp
    · exact in_of_mem_positionsFrom hrest hp
termination_by structural fs

end

theorem mem_positionsFrom_of_getElem? {n i : Nat} {f : Field} {fs : List Field}
    (hf : fs[i]? = some f) {p : Position}
    (hp : p = ⟨[n + i], [], f⟩ ∨ p ∈ positionsBelow (n + i) f) : p ∈ positionsFrom n fs := by
  induction fs generalizing n i with
  | nil => cases hf
  | cons g fs ih =>
    cases i with
    | zero =>
      obtain rfl := Option.some.inj hf
      rcases hp with rfl | hp
      · exact List.mem_cons_self
      · exact List.mem_cons_of_mem _ (List.mem_append_left _ hp)
    | succ i =>
      rw [← Nat.add_assoc, Nat.add_right_comm] at hp
      exact List.mem_cons_of_mem _ (List.mem_append_right _ (ih hf hp))

@[simp] theorem mem_positions_iff {fields : List Field} {p : Position} :
    p ∈ positions fields ↔ p.In fields := by
  constructor
  · exact in_of_mem_positionsFrom List.drop_zero
  · intro h
    induction h with
    | @top fields i f h =>
      refine mem_positionsFrom_of_getElem? h (.inl ?_)
      rw [Nat.zero_add]
    | @inside fields children i a p h _ ih =>
      refine mem_positionsFrom_of_getElem? h (.inr ?_)
      rw [Nat.zero_add]
      exact List.mem_map.2 ⟨p, ih, rfl⟩

theorem exists_indices_of_mem_positionsBelow {i : Nat} {f : Field} {p : Position}
    (hp : p ∈ positionsBelow i f) : ∃ k rest, p.indices = i :: k :: rest := by
  match f with
  | .group a children =>
    obtain ⟨q, hq, rfl⟩ := List.mem_map.1 hp
    have hin : q.In children := mem_positions_iff.1 hq
    cases hin with
    | top _ => exact ⟨_, _, rfl⟩
    | inside _ _ => exact ⟨_, _, rfl⟩
  | .leaf _ _ | .unknown _ _ | .select _ _ => cases hp

theorem exists_indices_of_mem_positionsFrom {n : Nat} {fs : List Field} {p : Position}
    (hp : p ∈ positionsFrom n fs) : ∃ k rest, p.indices = k :: rest ∧ n ≤ k := by
  induction fs generalizing n with
  | nil => cases hp
  | cons f fs ih =>
    rcases List.mem_cons.1 hp with rfl | hp
    · exact ⟨n, [], rfl, Nat.le_refl _⟩
    rcases List.mem_append.1 hp with hp | hp
    · obtain ⟨k, rest, heq⟩ := exists_indices_of_mem_positionsBelow hp
      exact ⟨n, k :: rest, heq, Nat.le_refl _⟩
    · obtain ⟨k, rest, heq, hle⟩ := ih hp
      exact ⟨k, rest, heq, by omega⟩

mutual

theorem pairwise_positionsBelow (i : Nat) (f : Field) :
    (positionsBelow i f).Pairwise (·.indices < ·.indices) := by
  match f with
  | .group a children =>
    refine List.pairwise_map.2 ((pairwise_positionsFrom 0 children).imp fun h => ?_)
    exact List.cons_lt_cons_iff.2 (.inr ⟨rfl, h⟩)
  | .leaf _ _ | .unknown _ _ | .select _ _ => exact .nil
termination_by structural f

theorem pairwise_positionsFrom (i : Nat) (fs : List Field) :
    (positionsFrom i fs).Pairwise (·.indices < ·.indices) := by
  match fs with
  | [] => exact .nil
  | f :: fs =>
    have hlater : ∀ {p : Position}, p.indices.head? = some i → ∀ q ∈ positionsFrom (i + 1) fs,
        p.indices < q.indices := by
      intro p hp q hq
      obtain ⟨rest, hrest⟩ := List.head?_eq_some_iff.1 hp
      obtain ⟨k, rest', heq, hle⟩ := exists_indices_of_mem_positionsFrom hq
      rw [hrest, heq]
      exact List.cons_lt_cons_iff.2 (.inl hle)
    refine List.pairwise_cons.2 ⟨fun q hq => ?_, List.pairwise_append.2
      ⟨pairwise_positionsBelow i f, pairwise_positionsFrom (i + 1) fs, fun p hp q hq => ?_⟩⟩
    · rcases List.mem_append.1 hq with hq | hq
      · obtain ⟨k, rest, heq⟩ := exists_indices_of_mem_positionsBelow hq
        rw [heq]
        exact List.cons_lt_cons_iff.2 (.inr ⟨rfl, List.nil_lt_cons _ _⟩)
      · exact hlater rfl q hq
    · obtain ⟨k, rest, heq⟩ := exists_indices_of_mem_positionsBelow hp
      exact hlater (by rw [heq]; rfl) q hq
termination_by structural fs

end

theorem positions_ordered (fields : List Field) :
    (positions fields).Pairwise (·.indices < ·.indices) :=
  pairwise_positionsFrom 0 fields

end Field

end Intake
