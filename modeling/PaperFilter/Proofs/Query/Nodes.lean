import Mathlib
import PaperFilter.Proofs.Query.Canonical

/-!
# The nodes of a tree

What makes a tree canonical can be said of each of its nodes by itself, with no more than one look
at its children.  All nodes of the tree of a query are of that kind, however the query is put in
parentheses.
-/

namespace PaperFilter
namespace Node

/-!
## All nodes of a tree
-/

mutual

/-- The nodes of a tree, each in front of those below it. -/
def nodes : Node → List Node
  | .and children => .and children :: nodesOfAll children
  | .or children => .or children :: nodesOfAll children
  | .not child => .not child :: nodes child
  | .phrase words => [.phrase words]
  | .word term => [.word term]

def nodesOfAll : List Node → List Node
  | [] => []
  | child :: rest => nodes child ++ nodesOfAll rest

end

theorem nodesOfAll_eq_flatMap (children : List Node) :
    nodesOfAll children = children.flatMap nodes := by
  induction children with
  | nil => rfl
  | cons child rest ih => rw [nodesOfAll, List.flatMap_cons, ih]

theorem nodes_node (kind : Kind) (children : List Node) :
    (kind.node children).nodes = kind.node children :: children.flatMap nodes := by
  cases kind
  · exact congrArg (List.cons _) (nodesOfAll_eq_flatMap children)
  · exact congrArg (List.cons _) (nodesOfAll_eq_flatMap children)

/-!
## Normal nodes
-/

/--
A group has two children or more and none of its own kind, a phrase has words, and every word is one
that a query can hold where it stands: outside quotes that excludes the keywords in any ASCII letter
case.
-/
def IsNormal : Node → Prop
  | .and children => 2 ≤ children.length ∧ ∀ inner, .and inner ∉ children
  | .or children => 2 ≤ children.length ∧ ∀ inner, .or inner ∉ children
  | .not _ => True
  | .phrase words =>
      words ≠ [] ∧ ∀ word ∈ words, word ≠ [] ∧ ∀ c ∈ word, isQueryChar c = true
  | .word term =>
      (term.text ≠ [] ∧ ∀ c ∈ term.text, isQueryChar c = true) ∧
        ∀ keyword : Keyword, term.text.map Char.toLower ≠ keyword.text

theorem IsCanonical.isNormal {node : Node} (h : node.IsCanonical) : node.IsNormal := by
  cases h with
  | group kind children hlength _ hinner =>
      cases kind
      · exact ⟨hlength, hinner⟩
      · exact ⟨hlength, hinner⟩
  | not child _ => trivial
  | phrase words hne hwords => exact ⟨hne, hwords⟩
  | word term hword hkeyword => exact ⟨hword, hkeyword⟩

/-- Everything below a canonical tree is canonical. -/
theorem IsCanonical.of_mem_nodes {node : Node} (h : node.IsCanonical) :
    ∀ inner ∈ node.nodes, inner.IsCanonical := by
  induction h with
  | group kind children hlength hchildren hinner ih =>
      rw [nodes_node]
      intro inner hmem
      rcases List.mem_cons.mp hmem with rfl | hbelow
      · exact .group kind children hlength hchildren hinner
      · rcases List.mem_flatMap.mp hbelow with ⟨child, hchild, hmemChild⟩
        exact ih child hchild inner hmemChild
  | not child hchild ih => exact List.forall_mem_cons.mpr ⟨.not child hchild, ih⟩
  | phrase words hne hwords => exact List.forall_mem_singleton.mpr (.phrase words hne hwords)
  | word term hword hkeyword => exact List.forall_mem_singleton.mpr (.word term hword hkeyword)

/-- All nodes of the tree that a query has are normal. -/
theorem isNormal_of_parse [PatternCompiler] {query : Text} {node : Node}
    (h : Node.parse query = .ok node) :
    ∀ inner ∈ node.nodes, inner.IsNormal := by
  intro inner hmem
  exact ((Grammar.isCanonical_of_parse h).of_mem_nodes inner hmem).isNormal

theorem isNormal_of_parse_nested :
    letI := PatternCompiler.unlimited
    let node : Node := .or [.and [.word ⟨['a']⟩, .not (.word ⟨['b']⟩),
      .phrase [['o', 'r']]], .word ⟨['c']⟩]
    Node.parse "((a (not b)) and (\"or\")) or ((c))".toList = .ok node ∧
      ∀ inner ∈ node.nodes, inner.IsNormal := by
  intro node
  let _ := PatternCompiler.unlimited
  have h : Node.parse "((a (not b)) and (\"or\")) or ((c))".toList = .ok node := by cbv
  exact ⟨h, isNormal_of_parse h⟩

end Node
end PaperFilter
