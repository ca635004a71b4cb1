import Mathlib
import PaperFilter.Proofs.Query.Acceptance
import PaperFilter.Proofs.Query.Evaluation
import PaperFilter.Query

/-!
# Queries put together

Two queries with `or` between them are one query, whose conjunctions are those of the first and then
those of the second.  In parentheses a query is one operand, which nests one level deeper than the
query, and can be negated or stand beside others.
-/

namespace PaperFilter
namespace Grammar

open Structure

/-!
## Disjunctions in a row
-/

namespace Derivation

def orElse : Derivation .disjunction → Derivation .disjunction → Derivation .disjunction
  | .conjunction only, second => .or only second
  | .or first others, second => .or first (others.orElse second)

theorem symbols_orElse (first second : Derivation .disjunction) :
    (first.orElse second).symbols = first.symbols ++ .operator .or :: second.symbols := by
  fun_induction orElse first second with
  | case1 only second => rfl
  | case2 first others second ih =>
      rw [symbols_or, ih, symbols_or, List.append_assoc, List.cons_append]

theorem operands_orElse [PatternCompiler] {first second : Derivation .disjunction}
    {left right : List Node}
    (hfirst : first.operands = .ok left) (hsecond : second.operands = .ok right) :
    (first.orElse second).operands = .ok (left ++ right) := by
  fun_induction orElse first second generalizing left with
  | case1 only second =>
      rcases operands_conjunction_eq_ok hfirst with ⟨conjuncts, hconjuncts, rfl⟩
      rw [operands_or, hconjuncts, hsecond]
      rfl
  | case2 first others second ih =>
      rcases operands_or_eq_ok hfirst with ⟨conjuncts, disjuncts, hconjuncts, hdisjuncts, rfl⟩
      rw [operands_or, hconjuncts, ih hdisjuncts hsecond]
      rfl

end Derivation

/-!
## Queries with their derivations
-/

section

variable [PatternCompiler]

/-- A derivation that a query spells, and the trees that it puts side by side. -/
structure Parsed (query : Text) where
  derivation : Derivation .disjunction
  operands : List Node
  spells : Lexeme.SpellsSymbols query derivation.symbols
  compiles : derivation.operands = .ok operands

namespace Parsed

variable {query first second : Text}

def NestsWithin (limit : Int) (parsed : Parsed query) : Prop :=
  Structure.NestsWithin limit 0 0 parsed.derivation.symbols

theorem parse_eq (parsed : Parsed query) (hwithin : parsed.NestsWithin maxNesting) :
    Node.parse query = .ok (Node.or parsed.operands).normal := by
  rcases parsed.spells.exists_scan with ⟨lexemes, hscan, hsymbols⟩
  have hnesting : nesting (lexemes.map Lexeme.symbol) ≤ maxNesting := by
    rw [hsymbols, ← nestsWithin_iff (by decide)]
    exact hwithin
  rw [parse_of_derivation hscan hsymbols.symm hnesting, Derivation.tree, parsed.compiles]
  rfl

theorem exists_of_parse {node : Node} (h : Node.parse query = .ok node) :
    ∃ parsed : Parsed query, parsed.NestsWithin maxNesting ∧
      (Node.or parsed.operands).normal = node := by
  rcases exists_derivation_of_parse h with
    ⟨lexemes, derivation, plain, hscan, hsymbols, hnesting, htree, hnormal⟩
  rcases bind_eq_ok htree with ⟨operands, hoperands, hplain⟩
  cases hplain
  have hspells := Lexeme.spellsSymbols_of_scan hscan
  rw [← hsymbols] at hspells
  rw [← hsymbols, ← nestsWithin_iff (by decide)] at hnesting
  exact ⟨⟨derivation, operands, hspells, hoperands⟩, hnesting, hnormal⟩

/-!
## Ways to put queries together
-/

def orElse (left : Parsed first) (right : Parsed second) :
    Parsed (first ++ (" or ".toList ++ second)) where
  derivation := left.derivation.orElse right.derivation
  operands := left.operands ++ right.operands
  spells := by
    rw [Derivation.symbols_orElse]
    exact left.spells.append ((right.spells.keyword .or).blank rfl) (endsWord_cons rfl _)
  compiles := Derivation.operands_orElse left.compiles right.compiles

theorem nestsWithin_orElse {left : Parsed first} {right : Parsed second} {limit : Int}
    (hleft : left.NestsWithin limit) (hright : right.NestsWithin limit) :
    (left.orElse right).NestsWithin limit := by
  change Structure.NestsWithin limit 0 0 (left.derivation.orElse right.derivation).symbols
  rw [Derivation.symbols_orElse,
    left.derivation.nestsWithin_symbols_append_operator (by decide)]
  exact ⟨hleft, hright⟩

/-- In parentheses a query spells one operand, whatever stands behind it. -/
theorem spells_parentheses (parsed : Parsed query) {behind : Text} {symbols : List Symbol}
    (h : Lexeme.SpellsSymbols behind symbols) :
    Lexeme.SpellsSymbols ("(".toList ++ (query ++ (")".toList ++ behind)))
      ((Derivation.parentheses parsed.derivation).symbols ++ symbols) := by
  rw [Derivation.symbols_parentheses, List.cons_append, List.append_assoc]
  exact (parsed.spells.append h.closing (endsWord_cons rfl behind)).opening

theorem nestsWithin_parentheses {parsed : Parsed query} {limit : Int} {nots : Nat}
    (h : parsed.NestsWithin limit) :
    Structure.NestsWithin (limit + 1) 0 nots
      (Derivation.parentheses parsed.derivation).symbols := by
  rw [Derivation.nestsWithin_parentheses]
  apply Structure.NestsWithin.mono h
  · omega
  · omega

theorem compiles_parentheses (parsed : Parsed query) :
    (Derivation.parentheses parsed.derivation).operands = .ok [.or parsed.operands] := by
  rw [Derivation.operands_parentheses, parsed.compiles]
  rfl

def enclosed (parsed : Parsed query) : Parsed ("(".toList ++ (query ++ ")".toList)) where
  derivation := .conjunction (.negation (.group (.parentheses parsed.derivation)))
  operands := [.and [.or parsed.operands]]
  spells := by
    have h := parsed.spells_parentheses Lexeme.spellsSymbols_nil
    rw [List.append_nil, List.append_nil] at h
    exact h
  compiles := by
    rw [Derivation.operands_conjunction, Derivation.operands_negation, Derivation.operands_group,
      parsed.compiles_parentheses]
    rfl

theorem normal_enclosed (parsed : Parsed query) :
    (Node.or parsed.enclosed.operands).normal = (Node.or parsed.operands).normal :=
  (Node.normal_eq_of_simplifies (.only .or (.and [.or parsed.operands]))).trans
    (Node.normal_eq_of_simplifies (.only .and (.or parsed.operands)))

def negated (parsed : Parsed query) : Parsed ("not (".toList ++ (query ++ ")".toList)) where
  derivation := .conjunction (.negation (.not (.group (.parentheses parsed.derivation))))
  operands := [.and [.not (.or parsed.operands)]]
  spells := parsed.enclosed.spells.keyword .not
  compiles := by
    rw [Derivation.operands_conjunction, Derivation.operands_negation, Derivation.operands_not,
      Derivation.operands_group, parsed.compiles_parentheses]
    rfl

def both (left : Parsed first) (right : Parsed second) :
    Parsed ("(".toList ++ (first ++ (") and (".toList ++ (second ++ ")".toList)))) where
  derivation := .conjunction (.and (.group (.parentheses left.derivation))
    (.negation (.group (.parentheses right.derivation))))
  operands := [.and [.or left.operands, .or right.operands]]
  spells := left.spells_parentheses ((right.enclosed.spells.keyword .and).blank rfl)
  compiles := by
    rw [Derivation.operands_conjunction, Derivation.operands_and, Derivation.operands_negation,
      Derivation.operands_group, left.compiles_parentheses, Derivation.operands_group,
      right.compiles_parentheses]
    rfl

def beside (left : Parsed first) (right : Parsed second) :
    Parsed ("(".toList ++ (first ++ (") (".toList ++ (second ++ ")".toList)))) where
  derivation := .conjunction (.beside (.group (.parentheses left.derivation))
    (.negation (.group (.parentheses right.derivation))))
  operands := [.and [.or left.operands, .or right.operands]]
  spells := left.spells_parentheses (right.enclosed.spells.blank rfl)
  compiles := by
    rw [Derivation.operands_conjunction, Derivation.operands_beside, Derivation.operands_and,
      Derivation.operands_negation, Derivation.operands_group, left.compiles_parentheses,
      Derivation.operands_group, right.compiles_parentheses]
    rfl

/-!
## Nesting of queries put together
-/

section

variable {limit : Int} {left : Parsed first} {right : Parsed second}
  (hleft : left.NestsWithin limit)
include hleft

theorem nestsWithin_enclosed : left.enclosed.NestsWithin (limit + 1) :=
  nestsWithin_parentheses hleft

theorem nestsWithin_negated (hlimit : 0 ≤ limit) : left.negated.NestsWithin (limit + 1) := by
  constructor
  · change (0 : Int) + 0 + 1 ≤ limit + 1
    omega
  · exact nestsWithin_parentheses hleft

theorem nestsWithin_both (hright : right.NestsWithin limit) :
    (left.both right).NestsWithin (limit + 1) := by
  change Structure.NestsWithin (limit + 1) 0 0 ((Derivation.parentheses left.derivation).symbols ++
    .operator .and :: (Derivation.parentheses right.derivation).symbols)
  rw [Derivation.nestsWithin_symbols_append_operator _ (by decide)]
  exact ⟨nestsWithin_parentheses hleft, nestsWithin_parentheses hright⟩

theorem nestsWithin_beside (hright : right.NestsWithin limit) :
    (left.beside right).NestsWithin (limit + 1) := by
  change Structure.NestsWithin (limit + 1) 0 0 ((Derivation.parentheses left.derivation).symbols ++
    (Derivation.parentheses right.derivation).symbols)
  rw [Derivation.nestsWithin_symbols_append]
  exact ⟨nestsWithin_parentheses hleft, nestsWithin_parentheses hright⟩

end

/-!
## Matching
-/

theorem matchesExpression_eq (parsed : Parsed query) (hwithin : parsed.NestsWithin maxNesting)
    (text : Text) :
    matchesExpression text query =
      .ok ((Node.or parsed.operands).eval (Context.ofText text)) := by
  rw [matchesExpression, Query.parse, parsed.parse_eq hwithin, ← Node.eval_normal]
  rfl

theorem exists_of_matchesExpression {text : Text} {value : Bool}
    (h : matchesExpression text query = .ok value) :
    ∃ parsed : Parsed query, parsed.NestsWithin maxNesting ∧
      (Node.or parsed.operands).eval (Context.ofText text) = value := by
  rcases bind_eq_ok h with ⟨found, hfound, _⟩
  rcases bind_eq_ok hfound with ⟨node, hnode, _⟩
  rcases exists_of_parse hnode with ⟨parsed, hwithin, _⟩
  rw [parsed.matchesExpression_eq hwithin] at h
  injection h with h
  exact ⟨parsed, hwithin, h⟩

end Parsed

end

/-- However a query reads, its symbols nest no deeper than the limit. -/
def NestsAtMost (limit : Int) (query : Text) : Prop :=
  ∀ lexemes, Lexeme.scan query = .ok lexemes → nesting (lexemes.map Lexeme.symbol) ≤ limit

theorem NestsAtMost.nestsWithin [PatternCompiler] {limit : Int} {query : Text}
    (h : NestsAtMost limit query) (hlimit : 0 ≤ limit) (parsed : Parsed query) :
    parsed.NestsWithin limit := by
  rcases parsed.spells.exists_scan with ⟨lexemes, hscan, hsymbols⟩
  have hnesting := h lexemes hscan
  rw [hsymbols] at hnesting
  exact (nestsWithin_iff hlimit).mpr hnesting

/--
Matching goes by the parts of an expression.  Between two expressions `or` needs no parentheses;
`and`, nothing at all, and `not` in front need them, and room for one more level of nesting.
-/
theorem matchesExpression_composed [PatternCompiler] {text first second : Text} {left right : Bool}
    (hfirst : matchesExpression text first = .ok left)
    (hsecond : matchesExpression text second = .ok right) :
    matchesExpression text (first ++ " or ".toList ++ second) = .ok (left || right) ∧
    (NestsAtMost 127 first → NestsAtMost 127 second →
      matchesExpression text ("(".toList ++ first ++ ") and (".toList ++ second ++ ")".toList) =
          .ok (left && right) ∧
        matchesExpression text ("(".toList ++ first ++ ") (".toList ++ second ++ ")".toList) =
          .ok (left && right)) ∧
    (NestsAtMost 127 first →
      Node.parse ("(".toList ++ first ++ ")".toList) = Node.parse first ∧
        matchesExpression text ("not (".toList ++ first ++ ")".toList) = .ok (!left)) := by
  rcases Parsed.exists_of_matchesExpression hfirst with ⟨parsedFirst, hwithinFirst, rfl⟩
  rcases Parsed.exists_of_matchesExpression hsecond with ⟨parsedSecond, hwithinSecond, rfl⟩
  simp only [List.append_assoc]
  refine ⟨?_, ?_, ?_⟩
  · rw [(parsedFirst.orElse parsedSecond).matchesExpression_eq
      (Parsed.nestsWithin_orElse hwithinFirst hwithinSecond)]
    simp [Parsed.orElse, Node.eval_or]
  · intro hnestsFirst hnestsSecond
    have hleft := hnestsFirst.nestsWithin (by decide) parsedFirst
    have hright := hnestsSecond.nestsWithin (by decide) parsedSecond
    rw [(parsedFirst.both parsedSecond).matchesExpression_eq (Parsed.nestsWithin_both hleft hright),
      (parsedFirst.beside parsedSecond).matchesExpression_eq
        (Parsed.nestsWithin_beside hleft hright)]
    simp [Parsed.both, Parsed.beside, Node.eval_or, Node.eval_and]
  · intro hnests
    have hwithin := hnests.nestsWithin (by decide) parsedFirst
    constructor
    · rw [parsedFirst.enclosed.parse_eq (Parsed.nestsWithin_enclosed hwithin),
        parsedFirst.parse_eq hwithinFirst, parsedFirst.normal_enclosed]
    · rw [parsedFirst.negated.matchesExpression_eq
        (Parsed.nestsWithin_negated hwithin (by decide))]
      simp [Parsed.negated, Node.eval_or, Node.eval_and, Node.eval_not]

theorem matchesExpression_composed_words :
    letI := PatternCompiler.unlimited
    matchesExpression "a".toList ("a or b".toList ++ " or ".toList ++ "not a".toList) = .ok true ∧
      matchesExpression "a".toList
          ("(".toList ++ "a or b".toList ++ ") and (".toList ++ "not a".toList ++ ")".toList) =
        .ok false ∧
      matchesExpression "a".toList ("not (".toList ++ "a or b".toList ++ ")".toList) =
        .ok false := by
  let _ := PatternCompiler.unlimited
  have hfirst : matchesExpression "a".toList "a or b".toList = .ok true := by cbv
  have hsecond : matchesExpression "a".toList "not a".toList = .ok false := by cbv
  have hscanFirst : Lexeme.scan "a or b".toList =
      .ok [⟨.word ['a'], 0⟩, ⟨.operator .or, 2⟩, ⟨.word ['b'], 5⟩] := by cbv
  have hscanSecond : Lexeme.scan "not a".toList =
      .ok [⟨.operator .not, 0⟩, ⟨.word ['a'], 4⟩] := by cbv
  have hnestsFirst : NestsAtMost 127 "a or b".toList := by
    intro lexemes h
    rw [hscanFirst] at h
    cases h
    decide
  have hnestsSecond : NestsAtMost 127 "not a".toList := by
    intro lexemes h
    rw [hscanSecond] at h
    cases h
    decide
  rcases matchesExpression_composed hfirst hsecond with ⟨hor, hboth, henclosed⟩
  exact ⟨hor, (hboth hnestsFirst hnestsSecond).left, (henclosed hnestsFirst).right⟩

end Grammar
end PaperFilter
