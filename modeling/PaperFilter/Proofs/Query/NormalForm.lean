import Mathlib.Logic.Relation
import PaperFilter.Query.Node

/-!
# Normal forms of trees

A tree is simplified by two rules, anywhere in it: a group with one child is that child, and a group
in a group of its kind gives its children to the outer one.  Every tree has exactly one form to
which neither rule applies, and this is the form that `Node.conjunction` and `Node.disjunction`
build from the leaves upwards.
-/

namespace PaperFilter
namespace Node

/-!
## The two kinds of groups
-/

inductive Kind where
  | and
  | or
deriving Repr, DecidableEq

namespace Kind

def node : Kind → List Node → Node
  | .and, children => .and children
  | .or, children => .or children

/-- What a node contributes to a group of a kind. -/
def parts : Kind → Node → List Node
  | .and, child => child.conjuncts
  | .or, child => child.disjuncts

/-- The group that is built from simplified children. -/
def join : Kind → List Node → Node
  | .and, children => conjunction children
  | .or, children => disjunction children

theorem node_inj {kind kind' : Kind} {children children' : List Node} :
    kind.node children = kind'.node children' ↔ kind = kind' ∧ children = children' := by
  cases kind <;> cases kind' <;> simp [node]

theorem parts_node (kind : Kind) (children : List Node) :
    kind.parts (kind.node children) = children := by
  cases kind <;> rfl

theorem parts_of_ne {kind : Kind} {child : Node} (h : ∀ children, child ≠ kind.node children) :
    kind.parts child = [child] := by
  cases kind <;> cases child <;> first | rfl | exact absurd rfl (h _)

theorem join_eq_of_parts {kind : Kind} {children : List Node} {only : Node}
    (h : children.flatMap kind.parts = [only]) : kind.join children = only := by
  cases kind with
  | and =>
      change children.flatMap conjuncts = [only] at h
      simp only [join, conjunction, h]
  | or =>
      change children.flatMap disjuncts = [only] at h
      simp only [join, disjunction, h]

theorem join_eq_node {kind : Kind} {children : List Node}
    (h : ∀ only, children.flatMap kind.parts ≠ [only]) :
    kind.join children = kind.node (children.flatMap kind.parts) := by
  cases kind with
  | and =>
      simp only [join, conjunction]
      split
      · next only honly => exact absurd honly (h only)
      · rfl
  | or =>
      simp only [join, disjunction]
      split
      · next only honly => exact absurd honly (h only)
      · rfl

theorem join_congr {kind : Kind} {children children' : List Node}
    (h : children.flatMap kind.parts = children'.flatMap kind.parts) :
    kind.join children = kind.join children' := by
  by_cases honly : ∃ only, children.flatMap kind.parts = [only]
  · rcases honly with ⟨only, honly⟩
    rw [join_eq_of_parts honly, join_eq_of_parts (h.symm.trans honly)]
  · have hne : ∀ only, children.flatMap kind.parts ≠ [only] := fun only h => honly ⟨only, h⟩
    rw [join_eq_node hne, join_eq_node (h ▸ hne), h]

theorem flatMap_parts_of_forall_ne {kind : Kind} {children : List Node}
    (h : ∀ inner, kind.node inner ∉ children) : children.flatMap kind.parts = children := by
  induction children with
  | nil => rfl
  | cons child rest ih =>
      have hchild : kind.parts child = [child] := by
        apply parts_of_ne
        rintro inner rfl
        exact h inner List.mem_cons_self
      have hrest := ih fun inner hmem => h inner (List.mem_cons_of_mem child hmem)
      rw [List.flatMap_cons, hchild, hrest, List.singleton_append]

end Kind

theorem induction_of {P : Node → Prop}
    (group : ∀ kind children, (∀ child ∈ children, P child) → P (Kind.node kind children))
    (not : ∀ child, P child → P (.not child))
    (phrase : ∀ words, P (.phrase words))
    (word : ∀ term, P (.word term)) (node : Node) : P node := by
  refine @Node.rec P (fun children => ∀ child ∈ children, P child)
    (group .and) (group .or) not phrase word ?_ ?_ node
  · intro child hchild
    cases hchild
  · intro first rest hfirst hrest child hchild
    rcases List.mem_cons.mp hchild with rfl | hmem
    · exact hfirst
    · exact hrest child hmem

/-!
## Simplification
-/

inductive Simplifies : Node → Node → Prop where
  | only (kind : Kind) (child : Node) : Simplifies (kind.node [child]) child
  | splice (kind : Kind) (before inner after : List Node) :
      Simplifies (kind.node (before ++ kind.node inner :: after))
        (kind.node (before ++ inner ++ after))
  | under (kind : Kind) (before after : List Node) {child simpler : Node} :
      Simplifies child simpler →
        Simplifies (kind.node (before ++ child :: after)) (kind.node (before ++ simpler :: after))
  | underNot {child simpler : Node} :
      Simplifies child simpler → Simplifies (.not child) (.not simpler)

/-- What no rule changes is the same for all trees that simplification leads to. -/
theorem eq_of_reduces {α : Type} {f : Node → α}
    (hstep : ∀ {node simpler}, Simplifies node simpler → f node = f simpler) {plain node : Node}
    (h : Relation.ReflTransGen Simplifies plain node) : f plain = f node := by
  induction h with
  | refl => rfl
  | tail _ hlast ih => exact ih.trans (hstep hlast)

/-- Simplification leads from the first tree to the second, and no further. -/
def ReducesTo (plain node : Node) : Prop :=
  Relation.ReflTransGen Simplifies plain node ∧ ∀ simpler, ¬ Simplifies node simpler

mutual

/-- The tree with all of its groups built anew, from the leaves upwards. -/
def normal : Node → Node
  | .and children => conjunction (normals children)
  | .or children => disjunction (normals children)
  | .not child => .not (normal child)
  | .phrase words => .phrase words
  | .word term => .word term

def normals : List Node → List Node
  | [] => []
  | child :: rest => normal child :: normals rest

end

theorem normals_eq_map (children : List Node) : normals children = children.map normal := by
  induction children with
  | nil => rfl
  | cons child rest ih => rw [normals, ih, List.map_cons]

theorem normal_node (kind : Kind) (children : List Node) :
    normal (kind.node children) = kind.join (children.map normal) := by
  cases kind <;> simp only [Kind.node, Kind.join, normal, normals_eq_map]

/-!
## Every tree simplifies to its normal form
-/

theorem reduces_splice (kind : Kind) (before children : List Node) :
    Relation.ReflTransGen Simplifies (kind.node (before ++ children))
      (kind.node (before ++ children.flatMap kind.parts)) := by
  induction children generalizing before with
  | nil => exact .refl
  | cons child rest ih =>
      by_cases hgroup : ∃ inner, child = kind.node inner
      · rcases hgroup with ⟨inner, rfl⟩
        have hrest := ih (before ++ inner)
        rw [List.flatMap_cons, Kind.parts_node, ← List.append_assoc]
        exact .head (.splice kind before inner rest) hrest
      · have hparts := Kind.parts_of_ne fun inner h => hgroup ⟨inner, h⟩
        have hrest := ih (before ++ [child])
        rw [List.append_assoc, List.append_assoc] at hrest
        rw [List.flatMap_cons, hparts]
        exact hrest

theorem reduces_join (kind : Kind) (children : List Node) :
    Relation.ReflTransGen Simplifies (kind.node children) (kind.join children) := by
  have hsplice := reduces_splice kind [] children
  by_cases honly : ∃ only, children.flatMap kind.parts = [only]
  · rcases honly with ⟨only, honly⟩
    rw [List.nil_append, List.nil_append, honly] at hsplice
    rw [Kind.join_eq_of_parts honly]
    exact hsplice.tail (.only kind only)
  · rw [Kind.join_eq_node fun only h => honly ⟨only, h⟩]
    exact hsplice

theorem reduces_children (kind : Kind) (before children : List Node)
    (h : ∀ child ∈ children, Relation.ReflTransGen Simplifies child child.normal) :
    Relation.ReflTransGen Simplifies (kind.node (before ++ children))
      (kind.node (before ++ children.map normal)) := by
  induction children generalizing before with
  | nil => exact .refl
  | cons child rest ih =>
      have hchild : Relation.ReflTransGen Simplifies (kind.node (before ++ child :: rest))
          (kind.node (before ++ child.normal :: rest)) :=
        (h child List.mem_cons_self).lift (fun node => kind.node (before ++ node :: rest))
          fun _ _ => Simplifies.under kind before rest
      have hrest := ih (before ++ [child.normal]) fun node hnode =>
        h node (List.mem_cons_of_mem child hnode)
      rw [List.append_assoc, List.append_assoc] at hrest
      exact hchild.trans hrest

theorem reduces_normal (node : Node) : Relation.ReflTransGen Simplifies node node.normal := by
  induction node using induction_of with
  | group kind children ih =>
      rw [normal_node]
      exact (reduces_children kind [] children ih).trans (reduces_join kind (children.map normal))
  | not child ih => exact ih.lift Node.not fun _ _ => Simplifies.underNot
  | phrase words => exact .refl
  | word term => exact .refl

/-!
## Flat trees
-/

/-- No group has one child alone, or a child of its own kind. -/
inductive IsFlat : Node → Prop where
  | group (kind : Kind) (children : List Node) :
      children.length ≠ 1 → (∀ child ∈ children, IsFlat child) →
        (∀ inner, kind.node inner ∉ children) → IsFlat (kind.node children)
  | not (child : Node) : IsFlat child → IsFlat (.not child)
  | phrase (words : List Text) : IsFlat (.phrase words)
  | word (term : Term) : IsFlat (.word term)

theorem isFlat_node_iff {kind : Kind} {children : List Node} :
    IsFlat (kind.node children) ↔
      children.length ≠ 1 ∧ (∀ child ∈ children, IsFlat child) ∧
        ∀ inner, kind.node inner ∉ children := by
  constructor
  · intro h
    generalize hnode : kind.node children = node at h
    cases h with
    | group kind' children' hlength hchildren hinner =>
        rcases Kind.node_inj.mp hnode with ⟨rfl, rfl⟩
        exact ⟨hlength, hchildren, hinner⟩
    | not child hchild => cases kind <;> cases hnode
    | phrase words => cases kind <;> cases hnode
    | word term => cases kind <;> cases hnode
  · rintro ⟨hlength, hchildren, hinner⟩
    exact .group kind children hlength hchildren hinner

theorem isFlat_not_iff {child : Node} : IsFlat (.not child) ↔ IsFlat child := by
  constructor
  · intro h
    generalize hnode : Node.not child = node at h
    cases h with
    | group kind children => cases kind <;> cases hnode
    | not child' hchild =>
        injection hnode with hnode
        exact hnode ▸ hchild
    | phrase words => cases hnode
    | word term => cases hnode
  · exact .not child

/-- The parts of a flat child are flat and are no groups of the kind that takes them in. -/
theorem IsFlat.of_mem_parts {kind : Kind} {child part : Node} (h : child.IsFlat)
    (hpart : part ∈ kind.parts child) : part.IsFlat ∧ ∀ inner, part ≠ kind.node inner := by
  by_cases hgroup : ∃ inner, child = kind.node inner
  · rcases hgroup with ⟨children, rfl⟩
    rw [Kind.parts_node] at hpart
    rcases isFlat_node_iff.mp h with ⟨_, hchildren, hinner⟩
    refine ⟨hchildren part hpart, ?_⟩
    rintro inner rfl
    exact hinner inner hpart
  · have hne : ∀ inner, child ≠ kind.node inner := fun inner hinner => hgroup ⟨inner, hinner⟩
    rw [Kind.parts_of_ne hne, List.mem_singleton] at hpart
    subst hpart
    exact ⟨h, hne⟩

theorem of_mem_flatMap_parts {kind : Kind} {children : List Node}
    (h : ∀ child ∈ children, IsFlat child) {part : Node}
    (hpart : part ∈ children.flatMap kind.parts) :
    part.IsFlat ∧ ∀ inner, part ≠ kind.node inner := by
  rcases List.mem_flatMap.mp hpart with ⟨child, hchild, hmem⟩
  exact (h child hchild).of_mem_parts hmem

theorem isFlat_join (kind : Kind) {children : List Node}
    (h : ∀ child ∈ children, IsFlat child) : (kind.join children).IsFlat := by
  by_cases honly : ∃ only, children.flatMap kind.parts = [only]
  · rcases honly with ⟨only, honly⟩
    rw [Kind.join_eq_of_parts honly]
    have hmem : only ∈ children.flatMap kind.parts := by
      rw [honly]
      exact List.mem_singleton_self only
    exact (of_mem_flatMap_parts h hmem).left
  · have hne : ∀ only, children.flatMap kind.parts ≠ [only] := fun only h => honly ⟨only, h⟩
    rw [Kind.join_eq_node hne, isFlat_node_iff]
    refine ⟨?_, ?_, ?_⟩
    · intro hlength
      rcases List.length_eq_one_iff.mp hlength with ⟨only, hparts⟩
      exact hne only hparts
    · intro part hpart
      exact (of_mem_flatMap_parts h hpart).left
    · intro inner hinner
      exact (of_mem_flatMap_parts h hinner).right inner rfl

theorem isFlat_normal (node : Node) : node.normal.IsFlat := by
  induction node using induction_of with
  | group kind children ih =>
      rw [normal_node]
      apply isFlat_join
      intro child hchild
      rcases List.mem_map.mp hchild with ⟨plain, hplain, rfl⟩
      exact ih plain hplain
  | not child ih => exact .not child.normal ih
  | phrase words => exact .phrase words
  | word term => exact .word term

/-!
## One normal form
-/

theorem IsFlat.not_simplifies {node simpler : Node} (h : node.IsFlat) :
    ¬ Simplifies node simpler := by
  intro hstep
  induction hstep with
  | only kind child => exact (isFlat_node_iff.mp h).left rfl
  | splice kind before inner after =>
      exact (isFlat_node_iff.mp h).right.right inner (List.mem_append_right before
        List.mem_cons_self)
  | under kind before after _ ih =>
      exact ih ((isFlat_node_iff.mp h).right.left _ (List.mem_append_right before
        List.mem_cons_self))
  | underNot _ ih => exact ih (isFlat_not_iff.mp h)

theorem isFlat_of_irreducible {node : Node} (h : ∀ simpler, ¬ Simplifies node simpler) :
    node.IsFlat := by
  induction node using induction_of with
  | group kind children ih =>
      rw [isFlat_node_iff]
      refine ⟨?_, ?_, ?_⟩
      · intro hlength
        rcases List.length_eq_one_iff.mp hlength with ⟨only, rfl⟩
        exact h only (.only kind only)
      · intro child hchild
        apply ih child hchild
        intro simpler hstep
        rcases List.append_of_mem hchild with ⟨before, after, rfl⟩
        exact h _ (.under kind before after hstep)
      · intro inner hinner
        rcases List.append_of_mem hinner with ⟨before, after, rfl⟩
        exact h _ (.splice kind before inner after)
  | not child ih =>
      apply IsFlat.not
      apply ih
      intro simpler hstep
      exact h _ (.underNot hstep)
  | phrase words => exact .phrase words
  | word term => exact .word term

theorem IsFlat.join_eq {kind : Kind} {children : List Node}
    (h : (kind.node children).IsFlat) : kind.join children = kind.node children := by
  rcases isFlat_node_iff.mp h with ⟨hlength, _, hinner⟩
  have hparts := Kind.flatMap_parts_of_forall_ne hinner
  have hne : ∀ only, children.flatMap kind.parts ≠ [only] := by
    intro only honly
    rw [hparts] at honly
    exact hlength (by rw [honly]; rfl)
  rw [Kind.join_eq_node hne, hparts]

theorem IsFlat.normal_eq {node : Node} (h : node.IsFlat) : node.normal = node := by
  induction node using induction_of with
  | group kind children ih =>
      have hchildren := (isFlat_node_iff.mp h).right.left
      have hmap : children.map normal = children := by
        rw [List.map_congr_left fun child hchild => ih child hchild (hchildren child hchild)]
        exact List.map_id' children
      rw [normal_node, hmap, h.join_eq]
  | not child ih => rw [normal, ih (isFlat_not_iff.mp h)]
  | phrase words => rfl
  | word term => rfl

/-- A group that has been joined is taken apart again by a group of its kind. -/
theorem parts_join (kind : Kind) {children : List Node}
    (h : ∀ child ∈ children, IsFlat child) :
    kind.parts (kind.join children) = children.flatMap kind.parts := by
  by_cases honly : ∃ only, children.flatMap kind.parts = [only]
  · rcases honly with ⟨only, honly⟩
    have hmem : only ∈ children.flatMap kind.parts := by
      rw [honly]
      exact List.mem_singleton_self only
    rw [Kind.join_eq_of_parts honly, honly]
    exact Kind.parts_of_ne (of_mem_flatMap_parts h hmem).right
  · rw [Kind.join_eq_node fun only h => honly ⟨only, h⟩, Kind.parts_node]

theorem join_singleton (kind : Kind) {child : Node} (h : child.IsFlat) :
    kind.join [child] = child := by
  by_cases hgroup : ∃ inner, child = kind.node inner
  · rcases hgroup with ⟨inner, rfl⟩
    have hparts : [kind.node inner].flatMap kind.parts = inner.flatMap kind.parts := by
      rw [List.flatMap_singleton, Kind.parts_node,
        Kind.flatMap_parts_of_forall_ne (isFlat_node_iff.mp h).right.right]
    rw [Kind.join_congr hparts, h.join_eq]
  · have hparts := Kind.parts_of_ne fun inner hnode => hgroup ⟨inner, hnode⟩
    apply Kind.join_eq_of_parts
    rw [List.flatMap_singleton, hparts]

theorem isFlat_of_mem_map_normal {children : List Node} {child : Node}
    (h : child ∈ children.map normal) : child.IsFlat := by
  rcases List.mem_map.mp h with ⟨plain, _, rfl⟩
  exact isFlat_normal plain

theorem normal_eq_of_simplifies {node simpler : Node} (h : Simplifies node simpler) :
    node.normal = simpler.normal := by
  induction h with
  | only kind child =>
      rw [normal_node]
      exact join_singleton kind (isFlat_normal child)
  | splice kind before inner after =>
      rw [normal_node, normal_node]
      apply Kind.join_congr
      have hinner : kind.parts (kind.join (inner.map normal)) =
          (inner.map normal).flatMap kind.parts :=
        parts_join kind fun _ hchild => isFlat_of_mem_map_normal hchild
      simp only [List.map_append, List.map_cons, List.flatMap_append, List.flatMap_cons,
        normal_node, hinner, List.append_assoc]
  | under kind before after _ ih =>
      rw [normal_node, normal_node, List.map_append, List.map_append, List.map_cons,
        List.map_cons, ih]
  | underNot _ ih => rw [normal, normal, ih]

/-- A tree has one normal form, and it is the one built from the leaves upwards. -/
theorem reducesTo_iff {plain node : Node} : plain.ReducesTo node ↔ plain.normal = node := by
  constructor
  · rintro ⟨hreduces, hirreducible⟩
    rw [eq_of_reduces normal_eq_of_simplifies hreduces,
      (isFlat_of_irreducible hirreducible).normal_eq]
  · rintro rfl
    exact ⟨reduces_normal plain, fun _ => (isFlat_normal plain).not_simplifies⟩

end Node
end PaperFilter
