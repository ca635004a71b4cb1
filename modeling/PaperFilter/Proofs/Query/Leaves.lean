import PaperFilter.Proofs.Query.Canonical

/-!
# The leaves of a tree

The words and phrases of a tree, from left to right.  Simplification neither adds nor loses one nor
changes their order, so that the leaves of a tree that is read from a query are the words and
phrases of the query.
-/

namespace PaperFilter

/-- Words and phrases, and no operators or parentheses. -/
def Symbol.isLeaf : Symbol → Bool
  | .word _ => true
  | .phrase _ => true
  | .opening => false
  | .closing => false
  | .operator _ => false

namespace Node

mutual

/-- What a tree combines, from left to right. -/
def leaves : Node → List Symbol
  | .and children => leavesOfAll children
  | .or children => leavesOfAll children
  | .not child => leaves child
  | .phrase words => [.phrase words]
  | .word term => [.word term.text]

def leavesOfAll : List Node → List Symbol
  | [] => []
  | child :: rest => leaves child ++ leavesOfAll rest

end

theorem leavesOfAll_eq_flatMap (children : List Node) :
    leavesOfAll children = children.flatMap leaves := by
  induction children with
  | nil => rfl
  | cons child rest ih => rw [leavesOfAll, List.flatMap_cons, ih]

theorem leaves_and (children : List Node) :
    (Node.and children).leaves = children.flatMap leaves := by
  rw [leaves, leavesOfAll_eq_flatMap]

theorem leaves_or (children : List Node) :
    (Node.or children).leaves = children.flatMap leaves := by
  rw [leaves, leavesOfAll_eq_flatMap]

theorem leaves_node (kind : Kind) (children : List Node) :
    (kind.node children).leaves = children.flatMap leaves := by
  cases kind with
  | and => exact leaves_and children
  | or => exact leaves_or children

theorem leaves_not (child : Node) : (Node.not child).leaves = child.leaves := by
  rw [leaves]

theorem leaves_eq_of_simplifies {node simpler : Node} (h : Simplifies node simpler) :
    node.leaves = simpler.leaves := by
  induction h with
  | only kind child => rw [leaves_node, List.flatMap_singleton]
  | splice kind before inner after =>
      simp only [leaves_node, List.flatMap_append, List.flatMap_cons, List.append_assoc]
  | under kind before after _ ih =>
      simp only [leaves_node, List.flatMap_append, List.flatMap_cons, ih]
  | underNot _ ih => rw [leaves_not, leaves_not, ih]

theorem leaves_normal (node : Node) : node.normal.leaves = node.leaves :=
  (eq_of_reduces leaves_eq_of_simplifies (reduces_normal node)).symm

end Node

variable [PatternCompiler]

/-!
## Words of a tree that compile
-/

/-- No word of the tree is refused. -/
def Node.WordsCompile (node : Node) : Prop :=
  ∀ text, .word text ∈ node.leaves → Grammar.Compiles text

theorem Node.wordsCompile_node_iff {kind : Kind} {children : List Node} :
    (kind.node children).WordsCompile ↔ ∀ child ∈ children, child.WordsCompile := by
  simp only [WordsCompile, leaves_node, List.mem_flatMap]
  constructor
  · intro h child hchild text hmem
    exact h text ⟨child, hchild, hmem⟩
  · rintro h text ⟨child, hchild, hmem⟩
    exact h child hchild text hmem

theorem Node.wordsCompile_not_iff {child : Node} :
    (Node.not child).WordsCompile ↔ child.WordsCompile := by
  rw [WordsCompile, leaves_not, WordsCompile]

theorem Node.wordsCompile_word_iff {term : Term} :
    (Node.word term).WordsCompile ↔ Grammar.Compiles term.text := by
  simp [WordsCompile, leaves]

theorem Node.wordsCompile_phrase (words : List Text) : (Node.phrase words).WordsCompile := by
  simp [WordsCompile, leaves]

namespace Grammar

/-!
## The leaves of the tree of a query
-/

theorem leaves_operands {rule : Rule} {derivation : Derivation rule} {plains : List Node}
    (h : derivation.operands = .ok plains) :
    plains.flatMap Node.leaves = derivation.symbols.filter Symbol.isLeaf := by
  induction derivation generalizing plains with
  | conjunction only ih =>
      rcases Derivation.operands_conjunction_eq_ok h with ⟨conjuncts, hconjuncts, rfl⟩
      rw [List.flatMap_singleton, Node.leaves_and, ih hconjuncts,
        Derivation.symbols_conjunction]
  | or first others ihFirst ihOthers =>
      rcases Derivation.operands_or_eq_ok h with
        ⟨conjuncts, disjuncts, hconjuncts, hdisjuncts, rfl⟩
      rw [List.flatMap_cons, Node.leaves_and, ihFirst hconjuncts, ihOthers hdisjuncts,
        Derivation.symbols_or, List.filter_append, List.filter_cons_of_neg Bool.false_ne_true]
  | negation only ih => exact ih h
  | and first others ihFirst ihOthers =>
      rcases Derivation.operands_and_eq_ok h with
        ⟨negation, negations, hnegation, hnegations, rfl⟩
      rw [List.flatMap_append, ihFirst hnegation, ihOthers hnegations, Derivation.symbols_and,
        List.filter_append, List.filter_cons_of_neg Bool.false_ne_true]
  | beside first others ihFirst ihOthers =>
      rcases Derivation.operands_beside_eq_ok h with
        ⟨negation, negations, hnegation, hnegations, rfl⟩
      rw [List.flatMap_append, ihFirst hnegation, ihOthers hnegations, Derivation.symbols_beside,
        List.filter_append]
  | not negated ih =>
      rcases Derivation.operands_not_eq_ok h with ⟨inner, hinner, rfl⟩
      rw [List.flatMap_map, funext Node.leaves_not, ih hinner, Derivation.symbols_not,
        List.filter_cons_of_neg Bool.false_ne_true]
  | group only ih => exact ih h
  | parentheses inner ih =>
      rcases Derivation.operands_parentheses_eq_ok h with ⟨disjuncts, hdisjuncts, rfl⟩
      rw [List.flatMap_singleton, Node.leaves_or, ih hdisjuncts,
        Derivation.symbols_parentheses, List.filter_cons_of_neg Bool.false_ne_true,
        List.filter_append, List.filter_cons_of_neg Bool.false_ne_true, List.filter_nil,
        List.append_nil]
  | phrase words =>
      cases h
      rfl
  | word text =>
      rcases Derivation.operands_word_eq_ok h with ⟨term, hterm, rfl⟩
      rw [← text_of_ofText hterm]
      rfl

/-- The leaves of the tree of a query are its words and phrases in order. -/
theorem leaves_of_parse {query : Text} {node : Node} (h : Node.parse query = .ok node) :
    ∃ lexemes, Lexeme.scan query = .ok lexemes ∧
      (lexemes.map Lexeme.symbol).filter Symbol.isLeaf = node.leaves := by
  rcases exists_derivation_of_parse h with
    ⟨lexemes, derivation, plain, hscan, hsymbols, _, htree, rfl⟩
  rcases bind_eq_ok htree with ⟨operands, hoperands, hplain⟩
  cases hplain
  refine ⟨lexemes, hscan, ?_⟩
  rw [Node.leaves_normal, Node.leaves_or, leaves_operands hoperands, hsymbols]

theorem wordsCompile_of_parse {query : Text} {node : Node} (h : Node.parse query = .ok node) :
    node.WordsCompile := by
  rcases exists_derivation_of_parse h with ⟨_, derivation, plain, _, _, _, htree, rfl⟩
  rcases bind_eq_ok htree with ⟨operands, hoperands, hplain⟩
  cases hplain
  intro text hmem
  rw [Node.leaves_normal, Node.leaves_or, leaves_operands hoperands] at hmem
  exact exists_tree_iff.mp ⟨_, htree⟩ text (List.mem_of_mem_filter hmem)

end Grammar
end PaperFilter
