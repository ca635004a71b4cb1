import Mathlib
import PaperFilter.Proofs.Query.Composition
import PaperFilter.Proofs.Query.RenderedNesting

/-!
# The height of a tree

The limit on nesting counts open parentheses and the `not`s in a row, and an opening parenthesis
ends the row.  So with every parenthesis a query may have a row of `not`s again, one shorter than
the last, and a disjunction and a conjunction around it.  The height of its tree is the sum over
these levels at most, however long the query is, and one query has a tree of that height.
-/

namespace PaperFilter

open Structure

namespace Node

/-!
## Ways down a tree
-/

mutual

/-- How many nodes of a tree stand under each other at most. -/
def height : Node → Nat
  | .and children => 1 + tallest children
  | .or children => 1 + tallest children
  | .not child => 1 + height child
  | .phrase _ => 1
  | .word _ => 1

def tallest : List Node → Nat
  | [] => 0
  | child :: rest => max (height child) (tallest rest)

end

theorem height_node (kind : Kind) (children : List Node) :
    (kind.node children).height = 1 + tallest children := by
  cases kind <;> rw [Kind.node, height]

theorem tallest_le_iff {children : List Node} {bound : Nat} :
    tallest children ≤ bound ↔ ∀ child ∈ children, child.height ≤ bound := by
  induction children with
  | nil => simp [tallest]
  | cons child rest ih => rw [tallest, Nat.max_le, ih, List.forall_mem_cons]

theorem height_le_tallest {children : List Node} {child : Node} (h : child ∈ children) :
    child.height ≤ tallest children :=
  tallest_le_iff.mp (Nat.le_refl _) child h

theorem exists_height_eq_tallest {children : List Node} (hne : children ≠ []) :
    ∃ child ∈ children, child.height = tallest children := by
  induction children with
  | nil => exact absurd rfl hne
  | cons child rest ih =>
      rw [tallest]
      rcases Nat.le_total (tallest rest) child.height with hle | hle
      · exact ⟨child, List.mem_cons_self, (Nat.max_eq_left hle).symm⟩
      · rw [Nat.max_eq_right hle]
        by_cases hrest : rest = []
        · subst hrest
          exact ⟨child, List.mem_cons_self, Nat.le_antisymm hle (Nat.zero_le _)⟩
        · rcases ih hrest with ⟨other, hother, hheight⟩
          exact ⟨other, List.mem_cons_of_mem child hother, hheight⟩

/--
A way down from a node: the node, then one of its children, and so on.  While a function calls
itself for the children of a tree, its open calls are for the nodes of such a way.
-/
inductive GoesDown : Node → List Node → Prop where
  | stop (node : Node) : GoesDown node [node]
  | group (kind : Kind) {children : List Node} {child : Node} {way : List Node} :
      child ∈ children → GoesDown child way →
        GoesDown (kind.node children) (kind.node children :: way)
  | not {child : Node} {way : List Node} :
      GoesDown child way → GoesDown (.not child) (.not child :: way)

theorem height_pos (node : Node) : 0 < node.height := by
  cases node <;> rw [height] <;> omega

theorem GoesDown.length_le {node : Node} {way : List Node} (h : node.GoesDown way) :
    way.length ≤ node.height := by
  induction h with
  | stop node => exact node.height_pos
  | group kind hmem _ ih =>
      have hchild := height_le_tallest hmem
      rw [List.length_cons, height_node]
      omega
  | not _ ih =>
      rw [List.length_cons, height]
      omega

theorem exists_goesDown (node : Node) :
    ∃ way, node.GoesDown way ∧ way.length = node.height := by
  induction node using induction_of with
  | group kind children ih =>
      rw [height_node]
      by_cases hne : children = []
      · subst hne
        exact ⟨_, .stop _, rfl⟩
      · rcases exists_height_eq_tallest hne with ⟨child, hmem, hheight⟩
        rcases ih child hmem with ⟨way, hway, hlength⟩
        refine ⟨_, .group kind hmem hway, ?_⟩
        rw [List.length_cons, hlength, hheight, Nat.add_comm]
  | not child ih =>
      rcases ih with ⟨way, hway, hlength⟩
      refine ⟨_, .not hway, ?_⟩
      rw [List.length_cons, hlength, height, Nat.add_comm]
  | phrase words => exact ⟨_, .stop _, rfl⟩
  | word term => exact ⟨_, .stop _, rfl⟩

/-- The height is the number of nodes on the longest way down. -/
theorem isGreatest_height (node : Node) :
    IsGreatest {length | ∃ way, node.GoesDown way ∧ way.length = length} node.height := by
  constructor
  · exact node.exists_goesDown
  · rintro _ ⟨way, hway, rfl⟩
    exact hway.length_le

/-!
## Groups that are built anew
-/

/-- Splicing adds no height. -/
theorem height_join_le (kind : Kind) {children : List Node} {bound : Nat}
    (h : ∀ child ∈ children, child.height ≤ bound) :
    (kind.join children).height ≤ 1 + bound := by
  have hparts : ∀ part ∈ children.flatMap kind.parts, part.height ≤ bound := by
    intro part hpart
    rcases List.mem_flatMap.mp hpart with ⟨child, hchild, hmem⟩
    have hbound := h child hchild
    by_cases hgroup : ∃ inner, child = kind.node inner
    · rcases hgroup with ⟨inner, rfl⟩
      rw [Kind.parts_node] at hmem
      have hinner := height_le_tallest hmem
      rw [height_node] at hbound
      omega
    · rw [Kind.parts_of_ne fun inner hnode => hgroup ⟨inner, hnode⟩, List.mem_singleton] at hmem
      rwa [hmem]
  by_cases honly : ∃ only, children.flatMap kind.parts = [only]
  · rcases honly with ⟨only, honly⟩
    rw [honly, List.forall_mem_singleton] at hparts
    rw [Kind.join_eq_of_parts honly]
    omega
  · rw [Kind.join_eq_node fun only hcontra => honly ⟨only, hcontra⟩, height_node]
    have htallest := tallest_le_iff.mpr hparts
    omega

theorem height_normal_le (kind : Kind) {children : List Node} {bound : Nat}
    (h : ∀ child ∈ children, child.normal.height ≤ bound) :
    (kind.node children).normal.height ≤ 1 + bound := by
  rw [normal_node]
  apply height_join_le
  exact List.forall_mem_map.mpr h

theorem height_iterate_not (count : Nat) (node : Node) :
    (Node.not^[count] node).height = count + node.height := by
  induction count with
  | zero => exact (Nat.zero_add _).symm
  | succ count ih =>
      rw [Function.iterate_succ_apply', height, ih]
      omega

end Node

namespace Grammar

/-!
## Heights within the limit
-/

/--
How high the tree of a group can be where so many more parentheses can be opened: a word or a
phrase, or, in parentheses, a disjunction of conjunctions of a group behind as many `not`s as the
limit leaves.
-/
def highestGroup : Nat → Nat
  | 0 => 1
  | room + 1 => 2 + room + highestGroup room

theorem highestGroup_succ_eq_sum (room : Nat) :
    highestGroup (room + 1) = 3 + ∑ level ∈ Finset.range room, (2 + room - level) := by
  induction room with
  | zero => rfl
  | succ room ih =>
      have hshift : ∑ level ∈ Finset.range room, (2 + (room + 1) - (level + 1)) =
          ∑ level ∈ Finset.range room, (2 + room - level) :=
        Finset.sum_congr rfl fun level _ => by omega
      rw [highestGroup, ih, Finset.sum_range_succ', hshift]
      omega

theorem one_le_highestGroup (room : Nat) : 1 ≤ highestGroup room := by
  cases room with
  | zero => exact Nat.le_refl 1
  | succ room =>
      rw [highestGroup]
      omega

/-- How high the trees can be that a rule puts side by side, behind so many `not`s. -/
def Rule.highestOperand (room nots : Nat) : Rule → Nat
  | .disjunction => 1 + room + highestGroup room
  | .conjunction => room + highestGroup room
  | .negation => room - nots + highestGroup room
  | .group => highestGroup room

theorem Rule.highestOperand_negation_le (room nots : Nat) :
    Rule.negation.highestOperand room nots ≤ Rule.conjunction.highestOperand room nots :=
  Nat.add_le_add_right (Nat.sub_le room nots) _

section

variable [PatternCompiler]

theorem height_operands_le {rule : Rule} {derivation : Derivation rule} {opened : Int}
    {room nots : Nat} {plains : List Node} (hnots : nots ≤ room)
    (hwithin : NestsWithin (opened + room) opened nots derivation.symbols)
    (h : derivation.operands = .ok plains) :
    ∀ plain ∈ plains, plain.normal.height ≤ rule.highestOperand room nots := by
  induction derivation generalizing opened room nots plains with
  | conjunction only ih =>
      rcases Derivation.operands_conjunction_eq_ok h with ⟨conjuncts, hconjuncts, rfl⟩
      have hgroup := Node.height_normal_le .and (ih hnots hwithin hconjuncts)
      rw [Rule.highestOperand, ← Nat.add_assoc] at hgroup
      exact List.forall_mem_singleton.mpr hgroup
  | or first others ihFirst ihOthers =>
      rcases Derivation.operands_or_eq_ok h with
        ⟨conjuncts, disjuncts, hconjuncts, hdisjuncts, rfl⟩
      rw [Derivation.symbols_or, first.nestsWithin_symbols_append_operator (by decide)] at hwithin
      have hgroup := Node.height_normal_le .and (ihFirst hnots hwithin.left hconjuncts)
      rw [Rule.highestOperand, ← Nat.add_assoc] at hgroup
      have hothers := ihOthers (Nat.zero_le room) hwithin.right hdisjuncts
      exact List.forall_mem_cons.mpr ⟨hgroup, hothers⟩
  | negation only ih =>
      intro plain hplain
      have hheight := ih hnots hwithin h plain hplain
      exact Nat.le_trans hheight (Rule.highestOperand_negation_le room nots)
  | and first others ihFirst ihOthers =>
      rcases Derivation.operands_and_eq_ok h with
        ⟨negation, negations, hnegation, hnegations, rfl⟩
      rw [Derivation.symbols_and, first.nestsWithin_symbols_append_operator (by decide)] at hwithin
      have hothers := ihOthers (Nat.zero_le room) hwithin.right hnegations
      refine List.forall_mem_append.mpr ⟨?_, hothers⟩
      intro plain hplain
      have hheight := ihFirst hnots hwithin.left hnegation plain hplain
      exact Nat.le_trans hheight (Rule.highestOperand_negation_le room nots)
  | beside first others ihFirst ihOthers =>
      rcases Derivation.operands_beside_eq_ok h with
        ⟨negation, negations, hnegation, hnegations, rfl⟩
      rw [Derivation.symbols_beside, first.nestsWithin_symbols_append] at hwithin
      have hothers := ihOthers (Nat.zero_le room) hwithin.right hnegations
      refine List.forall_mem_append.mpr ⟨?_, hothers⟩
      intro plain hplain
      have hheight := ihFirst hnots hwithin.left hnegation plain hplain
      exact Nat.le_trans hheight (Rule.highestOperand_negation_le room nots)
  | not negated ih =>
      rcases Derivation.operands_not_eq_ok h with ⟨inner, hinner, rfl⟩
      rcases hwithin with ⟨hhere, hnegated⟩
      rw [rise, Int.add_zero] at hhere hnegated
      -- The `not` itself keeps within the limit, so that one fewer may follow.
      have hfewer : nots + 1 ≤ room := by
        change opened + ((nots + 1 : Nat) : Int) ≤ opened + room at hhere
        omega
      intro plain hplain
      rcases List.mem_map.mp hplain with ⟨child, hchild, rfl⟩
      have hheight := ih hfewer hnegated hinner child hchild
      rw [Rule.highestOperand] at hheight ⊢
      rw [Node.normal, Node.height]
      omega
  | group only ih =>
      intro plain hplain
      have hheight := ih hnots hwithin h plain hplain
      exact Nat.le_trans hheight (Nat.le_add_left _ _)
  | parentheses inner ih =>
      rcases Derivation.operands_parentheses_eq_ok h with ⟨disjuncts, hdisjuncts, rfl⟩
      rw [Derivation.nestsWithin_parentheses] at hwithin
      have hdeeper := Derivation.le_of_nestsWithin_symbols hwithin
      rcases Nat.exists_eq_add_of_le' (show 1 ≤ room by omega) with ⟨left, rfl⟩
      have hlimit : opened + (left + 1 : Nat) = opened + 1 + left := by omega
      rw [hlimit] at hwithin
      have hgroup := Node.height_normal_le .or (ih (Nat.zero_le left) hwithin hdisjuncts)
      refine List.forall_mem_singleton.mpr (Nat.le_trans hgroup ?_)
      rw [Rule.highestOperand, Rule.highestOperand, highestGroup]
      omega
  | phrase words =>
      cases h
      exact List.forall_mem_singleton.mpr (one_le_highestGroup room)
  | word text =>
      rcases Derivation.operands_word_eq_ok h with ⟨term, _, rfl⟩
      exact List.forall_mem_singleton.mpr (one_le_highestGroup room)

theorem height_of_parse_le {query : Text} {node : Node} (h : Node.parse query = .ok node) :
    node.height ≤ highestGroup (maxNesting + 1) := by
  rcases Parsed.exists_of_parse h with ⟨parsed, hwithin, rfl⟩
  have hlimit : NestsWithin (0 + maxNesting) 0 0 parsed.derivation.symbols := by
    rw [Int.zero_add]
    exact hwithin
  have hgroup := Node.height_normal_le .or
    (height_operands_le (Nat.zero_le maxNesting) hlimit parsed.compiles)
  refine Nat.le_trans hgroup ?_
  rw [Rule.highestOperand, highestGroup]
  omega

end

/-!
## A query with the highest tree
-/

def letter : Node :=
  .word ⟨['a']⟩

/-- An operand beside a letter, in a conjunction that stands in a disjunction. -/
def Derivation.besideLetter (operand : Derivation .negation) : Derivation .disjunction :=
  .or (.negation (.group (.word ['a'])))
    (.conjunction (.beside (.group (.word ['a'])) (.negation operand)))

theorem isWord_letter : IsWord ['a'] :=
  ⟨List.cons_ne_nil _ _, List.forall_mem_singleton.mpr rfl⟩

theorem nestsWithin_letter (limit nots : Nat) :
    NestsWithin limit 0 nots (Derivation.word ['a']).symbols := by
  refine ⟨?_, trivial⟩
  change 0 + (0 + ((0 : Nat) : Int)) ≤ _
  omega

theorem nestsWithin_besideLetter {operand : Derivation .negation} {limit : Nat}
    (h : NestsWithin limit 0 0 operand.symbols) :
    NestsWithin limit 0 0 operand.besideLetter.symbols := by
  change NestsWithin _ 0 0 ((Derivation.word ['a']).symbols ++ .operator .or ::
    ((Derivation.word ['a']).symbols ++ operand.symbols))
  rw [Derivation.nestsWithin_symbols_append_operator _ (by decide),
    Derivation.nestsWithin_symbols_append]
  exact ⟨nestsWithin_letter limit 0, nestsWithin_letter limit 0, h⟩

section

variable [PatternCompiler]

namespace Parsed

variable {query : Text}

def besideLetter {operand : Derivation .negation} {plain : Node}
    (hspells : Lexeme.SpellsSymbols query operand.symbols)
    (hcompiles : operand.operands = .ok [plain]) : Parsed ("a or a ".toList ++ query) where
  derivation := operand.besideLetter
  operands := [.and [letter], .and [letter, plain]]
  spells := by
    have hsecond := (hspells.blank (c := ' ') rfl).word isWord_letter (endsWord_cons rfl _)
    have hfirst := ((hsecond.keyword .or).blank (c := ' ') rfl).word isWord_letter
      (endsWord_cons rfl _)
    rw [Derivation.besideLetter, Derivation.symbols_or, Derivation.symbols_conjunction,
      Derivation.symbols_beside, Derivation.symbols_negation, Derivation.symbols_negation]
    exact hfirst
  compiles := by
    rw [Derivation.besideLetter, Derivation.operands_or, Derivation.operands_conjunction,
      Derivation.operands_beside, Derivation.operands_and, Derivation.operands_negation,
      Derivation.operands_negation, hcompiles]
    rfl

def lowest : Parsed ("a or a ".toList ++ ['a']) :=
  @besideLetter _ _ (.group (.word ['a'])) letter
    (Lexeme.spellsSymbols_nil.word isWord_letter fun _ h => nomatch h) rfl

/-- A query in parentheses behind `not`s, beside a letter. -/
def beneath (count : Nat) (parsed : Parsed query) :
    Parsed ("a or a ".toList ++ Node.negated count ("(".toList ++ (query ++ ")".toList))) :=
  @besideLetter _ _ (Derivation.not^[count] (.group (.parentheses parsed.derivation)))
    (Node.not^[count] (.or parsed.operands))
    (by
      rw [Node.symbols_iterate_not]
      exact Node.spellsSymbols_negated count parsed.enclosed.spells)
    (Node.operands_iterate_not count parsed.compiles_parentheses)

theorem nestsWithin_lowest : lowest.NestsWithin (0 : Nat) :=
  nestsWithin_besideLetter (nestsWithin_letter 0 0)

theorem nestsWithin_beneath {parsed : Parsed query} {limit : Nat}
    (h : parsed.NestsWithin limit) :
    (parsed.beneath (limit + 1)).NestsWithin (limit + 1 : Nat) := by
  have hgroup : Structure.NestsWithin (limit + 1 : Nat) 0 (0 + (limit + 1))
      (Derivation.parentheses parsed.derivation).symbols := by
    rw [Nat.cast_add]
    exact nestsWithin_parentheses h
  apply nestsWithin_besideLetter
  rw [Node.symbols_iterate_not, Node.nestsWithin_nots (limit + 1) (by omega)]
  exact ⟨by omega, hgroup⟩

theorem height_beneath (count : Nat) (parsed : Parsed query) :
    (Node.or (parsed.beneath (count + 1)).operands).normal.height =
      3 + count + (Node.or parsed.operands).normal.height := by
  have hnot : (Node.not^[count + 1] (.or parsed.operands)).normal =
      .not (Node.not^[count] (Node.or parsed.operands).normal) := by
    rw [Node.normal_iterate_not, Function.iterate_succ_apply']
  have hnormal : (Node.or (parsed.beneath (count + 1)).operands).normal =
      .or [letter, .and [letter, (Node.not^[count + 1] (.or parsed.operands)).normal]] := by
    change Node.disjunction [Node.conjunction [letter], Node.conjunction [letter,
      (Node.not^[count + 1] (.or parsed.operands)).normal]] = _
    rw [hnot]
    rfl
  rw [hnormal, hnot]
  simp only [Node.height, Node.tallest, letter, Node.height_iterate_not]
  omega

end Parsed

/-- A query that nests so deep and no deeper has a tree as high as that allows. -/
theorem exists_highest (limit : Nat) :
    ∃ (query : Text) (parsed : Parsed query), parsed.NestsWithin limit ∧
      (Node.or parsed.operands).normal.height = highestGroup (limit + 1) := by
  induction limit with
  | zero => exact ⟨_, Parsed.lowest, Parsed.nestsWithin_lowest, rfl⟩
  | succ limit ih =>
      rcases ih with ⟨query, parsed, hwithin, hheight⟩
      refine ⟨_, parsed.beneath (limit + 1), Parsed.nestsWithin_beneath hwithin, ?_⟩
      rw [Parsed.height_beneath, hheight]
      conv_rhs => rw [highestGroup]
      omega

end

/--
The trees of the queries are no higher than the limit on nesting allows, however long the queries
are, and one is as high.  A height is the number of nodes on the longest way down.
-/
theorem isGreatest_height_of_parse [PatternCompiler] :
    IsGreatest {height | ∃ query node, Node.parse query = .ok node ∧ node.height = height} 8515 ∧
      8515 = 3 + ∑ level ∈ Finset.range 128, (2 + 128 - level) ∧
      ∀ node : Node,
        IsGreatest {length | ∃ way, node.GoesDown way ∧ way.length = length} node.height := by
  have hlimit : highestGroup (maxNesting + 1) = 8515 := by decide +kernel
  have hsum := highestGroup_succ_eq_sum maxNesting
  rw [hlimit, maxNesting] at hsum
  refine ⟨⟨?_, ?_⟩, hsum, Node.isGreatest_height⟩
  · rcases exists_highest maxNesting with ⟨query, parsed, hwithin, hheight⟩
    exact ⟨query, _, parsed.parse_eq hwithin, hheight.trans hlimit⟩
  · rintro _ ⟨query, node, hparse, rfl⟩
    rw [← hlimit]
    exact height_of_parse_le hparse

end Grammar
end PaperFilter
