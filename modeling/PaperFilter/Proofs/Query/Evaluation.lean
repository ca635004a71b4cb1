import PaperFilter.Proofs.Query.NormalForm
import PaperFilter.Proofs.Token
import PaperFilter.Query.Evaluation

/-!
# Evaluation and normal forms

Simplification keeps what a tree evaluates to, and so does building its normal form.
-/

namespace PaperFilter
namespace Node

variable (context : Context)

theorem eval_and (children : List Node) :
    eval context (.and children) = children.all (eval context) := by
  rw [eval, evalAll_eq_all]

theorem eval_or (children : List Node) :
    eval context (.or children) = children.any (eval context) := by
  rw [eval, evalAny_eq_any]

theorem eval_not (child : Node) : eval context (.not child) = !eval context child := by
  rw [eval]

theorem eval_phrase (words : List Text) :
    eval context (.phrase words) = (Text.joinWith [' '] words).occursIn context.text := by
  rw [eval]

/-- A word without stars looks for itself among the tokens. -/
theorem eval_word_of_no_star {term : Term} (h : '*' ∉ term.text) :
    eval context (.word term) = true ↔ term.text ∈ context.tokens := by
  have hexact : term.wildcard = .exact term.text := by
    rw [Term.wildcard, Wildcard.ofWord, Text.splitOn_of_not_mem h, Wildcard.ofPieces]
  rw [eval, hexact, Wildcard.matchesAny, List.any_eq_true]
  simp [Wildcard.matchesToken]

theorem eval_eq_of_simplifies {node simpler : Node} (h : Simplifies node simpler) :
    node.eval context = simpler.eval context := by
  induction h with
  | only kind child => cases kind <;> simp [Kind.node, eval_and, eval_or]
  | splice kind before inner after => cases kind <;> simp [Kind.node, eval_and, eval_or]
  | under kind before after _ ih => cases kind <;> simp [Kind.node, eval_and, eval_or, ih]
  | underNot _ ih => rw [eval_not, eval_not, ih]

theorem eval_normal (node : Node) : node.normal.eval context = node.eval context :=
  (eq_of_reduces (eval_eq_of_simplifies context) (reduces_normal node)).symm

end Node
end PaperFilter
