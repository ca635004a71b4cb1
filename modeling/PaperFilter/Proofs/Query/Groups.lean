import PaperFilter.Proofs.Query.Evaluation
import PaperFilter.Proofs.Query.Leaves
import PaperFilter.Proofs.Query.Nodes

/-!
# What groups are built of

A group can be built of any trees, also of ones that no query has: groups with one child or none,
and groups in groups of their kind.  It holds where all of the trees hold, or some, and its words,
phrases and negations are those of the trees.
-/

namespace PaperFilter
namespace Node

/-!
## Negations
-/

def isNot : Node → Bool
  | .not _ => true
  | _ => false

/-- The number of negations in a tree. -/
def nots (node : Node) : Nat :=
  node.nodes.countP isNot

theorem nots_node (kind : Kind) (children : List Node) :
    (kind.node children).nots = (children.map nots).sum := by
  have hkind : isNot (kind.node children) = false := by cases kind <;> rfl
  rw [nots, nodes_node, List.countP_cons, hkind, List.countP_flatMap]
  rfl

theorem nots_and (children : List Node) : (Node.and children).nots = (children.map nots).sum :=
  nots_node .and children

theorem nots_or (children : List Node) : (Node.or children).nots = (children.map nots).sum :=
  nots_node .or children

theorem nots_not (child : Node) : (Node.not child).nots = child.nots + 1 :=
  List.countP_cons_of_pos rfl

theorem nots_eq_of_simplifies {node simpler : Node} (h : Simplifies node simpler) :
    node.nots = simpler.nots := by
  induction h with
  | only kind child => rw [nots_node, List.map_singleton, List.sum_singleton]
  | splice kind before inner after =>
      simp only [nots_node, List.map_append, List.map_cons, List.sum_append, List.sum_cons,
        Nat.add_assoc]
  | under kind before after _ ih =>
      simp only [nots_node, List.map_append, List.map_cons, List.sum_append, List.sum_cons, ih]
  | underNot _ ih => rw [nots_not, nots_not, ih]

theorem nots_normal (node : Node) : node.normal.nots = node.nots :=
  (eq_of_reduces nots_eq_of_simplifies (reduces_normal node)).symm

/-!
## Groups of any trees
-/

theorem eval_join (context : Context) (kind : Kind) (children : List Node) :
    (kind.join children).eval context = (kind.node children).eval context :=
  (eq_of_reduces (eval_eq_of_simplifies context) (reduces_join kind children)).symm

theorem leaves_join (kind : Kind) (children : List Node) :
    (kind.join children).leaves = children.flatMap leaves := by
  rw [← eq_of_reduces leaves_eq_of_simplifies (reduces_join kind children), leaves_node]

theorem nots_join (kind : Kind) (children : List Node) :
    (kind.join children).nots = (children.map nots).sum := by
  rw [← eq_of_reduces nots_eq_of_simplifies (reduces_join kind children), nots_node]

/--
A conjunction holds exactly where each of the trees holds that it is built of, and a disjunction
where one of them does.  The words and phrases of both are those of the trees, in their order.
-/
theorem eval_and_leaves_of_groups (context : Context) (children : List Node) :
    ((conjunction children).eval context = true ↔
        ∀ child ∈ children, child.eval context = true) ∧
      ((disjunction children).eval context = true ↔
        ∃ child ∈ children, child.eval context = true) ∧
      (conjunction children).leaves = children.flatMap leaves ∧
      (disjunction children).leaves = children.flatMap leaves := by
  have hand : (conjunction children).eval context = children.all (eval context) :=
    (eval_join context .and children).trans (eval_and context children)
  have hor : (disjunction children).eval context = children.any (eval context) :=
    (eval_join context .or children).trans (eval_or context children)
  rw [hand, hor, List.all_eq_true, List.any_eq_true]
  exact ⟨Iff.rfl, Iff.rfl, leaves_join .and children, leaves_join .or children⟩

end Node
end PaperFilter
