import PaperFilter.Proofs.Front
import PaperFilter.Query.Grammar

/-!
# Derivations of a query

The grammar of queries as a family of trees, one type for each rule.  A derivation spells a sequence
of symbols, and no two derivations of a rule spell the same sequence, also when more symbols stand
behind them that the rule does not take.
-/

namespace PaperFilter
namespace Grammar

/-!
## The rules
-/

inductive Rule where
  | disjunction
  | conjunction
  | negation
  | group
deriving Repr, DecidableEq

/-!
## Where a rule stops
-/

/-- The symbols at which a rule stops reading. -/
def Rule.stopsAt : Rule → Symbol → Bool
  | .disjunction, symbol => symbol = .closing
  | .conjunction, symbol => symbol = .closing || symbol = .operator .or
  | .negation, _ => true
  | .group, _ => true

/-- A rule takes none of the symbols. -/
def Rule.Stops (rule : Rule) (symbols : List Symbol) : Prop :=
  ∀ symbol, symbols.head? = some symbol → rule.stopsAt symbol = true

namespace Rule

theorem stops_nil (rule : Rule) : rule.Stops [] := by
  intro symbol h
  cases h

theorem stops_cons {rule : Rule} {symbol : Symbol} {rest : List Symbol} :
    rule.Stops (symbol :: rest) ↔ rule.stopsAt symbol = true := by
  simp [Stops]

theorem stops_negation (symbols : List Symbol) : Rule.negation.Stops symbols :=
  fun _ _ => rfl

theorem stops_group (symbols : List Symbol) : Rule.group.Stops symbols :=
  fun _ _ => rfl

theorem Stops.conjunction {symbols : List Symbol} (h : Rule.disjunction.Stops symbols) :
    Rule.conjunction.Stops symbols := by
  intro symbol hsymbol
  have hclosing := h symbol hsymbol
  simp only [stopsAt, decide_eq_true_eq] at hclosing
  simp [stopsAt, hclosing]

/-- No rule that stops can stop at the beginning of an operand. -/
theorem not_startsOperand_of_stopsAt {symbol : Symbol}
    (h : Rule.conjunction.stopsAt symbol = true) : Structure.startsOperand symbol = false := by
  simp only [stopsAt, Bool.or_eq_true, decide_eq_true_eq] at h
  rcases h with rfl | rfl <;> rfl

theorem exists_cons_of_not_stops {symbols : List Symbol}
    (h : ¬ Rule.conjunction.Stops symbols) :
    ∃ symbol rest, symbols = symbol :: rest ∧
      (symbol = .operator .and ∨ Structure.startsOperand symbol = true) := by
  cases symbols with
  | nil => exact absurd (stops_nil _) h
  | cons symbol rest =>
      refine ⟨symbol, rest, rfl, ?_⟩
      rw [stops_cons] at h
      cases symbol with
      | word text => exact Or.inr rfl
      | phrase words => exact Or.inr rfl
      | opening => exact Or.inr rfl
      | closing => exact absurd rfl h
      | operator keyword =>
          cases keyword with
          | and => exact Or.inl rfl
          | or => exact absurd rfl h
          | not => exact Or.inr rfl

theorem Stops.eq_or_cons_or {symbols : List Symbol} (h : Rule.conjunction.Stops symbols) :
    Rule.disjunction.Stops symbols ∨ ∃ rest, symbols = .operator .or :: rest := by
  cases symbols with
  | nil => exact Or.inl (stops_nil _)
  | cons symbol rest =>
      have hstops := stops_cons.mp h
      simp only [stopsAt, Bool.or_eq_true, decide_eq_true_eq] at hstops
      rcases hstops with rfl | rfl
      · exact Or.inl (stops_cons.mpr rfl)
      · exact Or.inr ⟨rest, rfl⟩

end Rule

/-!
## Derivations
-/

/--
A disjunction is one or more conjunctions with `or` between each two; a conjunction is one or more
negations, with or without `and` between each two; a negation is `not` before a negation, or a
group; a group is a disjunction in parentheses, a phrase or a word.
-/
inductive Derivation : Rule → Type where
  | conjunction (only : Derivation .conjunction) : Derivation .disjunction
  | or (first : Derivation .conjunction) (others : Derivation .disjunction) :
      Derivation .disjunction
  | negation (only : Derivation .negation) : Derivation .conjunction
  | and (first : Derivation .negation) (others : Derivation .conjunction) :
      Derivation .conjunction
  | beside (first : Derivation .negation) (others : Derivation .conjunction) :
      Derivation .conjunction
  | not (negated : Derivation .negation) : Derivation .negation
  | group (only : Derivation .group) : Derivation .negation
  | parentheses (inner : Derivation .disjunction) : Derivation .group
  | phrase (words : List Text) : Derivation .group
  | word (text : Text) : Derivation .group
deriving Repr

namespace Derivation

variable {rule : Rule}

/-- The symbols that a derivation spells. -/
def symbols : {rule : Rule} → Derivation rule → List Symbol
  | _, .conjunction only => only.symbols
  | _, .or first others => first.symbols ++ .operator .or :: others.symbols
  | _, .negation only => only.symbols
  | _, .and first others => first.symbols ++ .operator .and :: others.symbols
  | _, .beside first others => first.symbols ++ others.symbols
  | _, .not negated => .operator .not :: negated.symbols
  | _, .group only => only.symbols
  | _, .parentheses inner => .opening :: (inner.symbols ++ [.closing])
  | _, .phrase words => [.phrase words]
  | _, .word text => [.word text]

section

variable (conjunct : Derivation .conjunction) (disjuncts : Derivation .disjunction)
  (negated : Derivation .negation) (conjuncts : Derivation .conjunction)
  (only : Derivation .group)

@[simp] theorem symbols_conjunction : (conjunction conjunct).symbols = conjunct.symbols :=
  rfl

@[simp] theorem symbols_or :
    (or conjunct disjuncts).symbols = conjunct.symbols ++ .operator .or :: disjuncts.symbols :=
  rfl

@[simp] theorem symbols_negation : (negation negated).symbols = negated.symbols :=
  rfl

@[simp] theorem symbols_and :
    (and negated conjuncts).symbols = negated.symbols ++ .operator .and :: conjuncts.symbols :=
  rfl

@[simp] theorem symbols_beside :
    (beside negated conjuncts).symbols = negated.symbols ++ conjuncts.symbols :=
  rfl

@[simp] theorem symbols_not : (not negated).symbols = .operator .not :: negated.symbols :=
  rfl

@[simp] theorem symbols_group : (group only).symbols = only.symbols :=
  rfl

@[simp] theorem symbols_parentheses :
    (parentheses disjuncts).symbols = .opening :: (disjuncts.symbols ++ [.closing]) :=
  rfl

@[simp] theorem symbols_phrase (words : List Text) : (phrase words).symbols = [.phrase words] :=
  rfl

@[simp] theorem symbols_word (text : Text) : (word text).symbols = [.word text] :=
  rfl

end

/-!
## The tree of a derivation
-/

section

variable [PatternCompiler]

/--
The trees that stand side by side in a derivation: those of its conjunctions, those of its
negations, or its own tree.  A word that does not compile makes them fail.
-/
def operands : {rule : Rule} → Derivation rule → Except QueryError (List Node)
  | _, .conjunction only => do return [.and (← only.operands)]
  | _, .or first others => do
      let conjuncts ← first.operands
      let disjuncts ← others.operands
      return .and conjuncts :: disjuncts
  | _, .negation only => only.operands
  | _, .and first others => do
      let negation ← first.operands
      let negations ← others.operands
      return negation ++ negations
  | _, .beside first others => do
      let negation ← first.operands
      let negations ← others.operands
      return negation ++ negations
  | _, .not negated => do return (← negated.operands).map Node.not
  | _, .group only => only.operands
  | _, .parentheses inner => do return [.or (← inner.operands)]
  | _, .phrase words => return [.phrase words]
  | _, .word text => do return [.word (← Term.ofText text)]

/-- The tree of a whole query, with a group for every disjunction and every conjunction of it. -/
def tree (derivation : Derivation .disjunction) : Except QueryError Node := do
  return .or (← derivation.operands)

section

variable {first : Derivation .conjunction} {others : Derivation .disjunction}
  {negated : Derivation .negation} {besides : Derivation .conjunction} {only : Derivation .group}
  {plains : List Node}

theorem operands_conjunction :
    (conjunction first).operands = do return [.and (← first.operands)] :=
  rfl

theorem operands_or :
    (or first others).operands = do
      let conjuncts ← first.operands
      let disjuncts ← others.operands
      return .and conjuncts :: disjuncts :=
  rfl

theorem operands_negation : (negation negated).operands = negated.operands :=
  rfl

theorem operands_and :
    (and negated besides).operands = do
      let negation ← negated.operands
      let negations ← besides.operands
      return negation ++ negations :=
  rfl

theorem operands_beside : (beside negated besides).operands = (and negated besides).operands :=
  rfl

theorem operands_not :
    (not negated).operands = do return (← negated.operands).map Node.not :=
  rfl

theorem operands_group : (group only).operands = only.operands :=
  rfl

theorem operands_parentheses :
    (parentheses others).operands = do return [.or (← others.operands)] :=
  rfl

theorem operands_word (text : Text) :
    (word text).operands = do return [.word (← Term.ofText text)] :=
  rfl

theorem operands_conjunction_eq_ok (h : (conjunction first).operands = .ok plains) :
    ∃ conjuncts, first.operands = .ok conjuncts ∧ plains = [.and conjuncts] := by
  rcases bind_eq_ok h with ⟨conjuncts, hconjuncts, hplains⟩
  cases hplains
  exact ⟨conjuncts, hconjuncts, rfl⟩

theorem operands_or_eq_ok (h : (or first others).operands = .ok plains) :
    ∃ conjuncts disjuncts, first.operands = .ok conjuncts ∧ others.operands = .ok disjuncts ∧
      plains = .and conjuncts :: disjuncts := by
  rcases bind_eq_ok h with ⟨conjuncts, hconjuncts, hrest⟩
  rcases bind_eq_ok hrest with ⟨disjuncts, hdisjuncts, hplains⟩
  cases hplains
  exact ⟨conjuncts, disjuncts, hconjuncts, hdisjuncts, rfl⟩

theorem operands_and_eq_ok (h : (and negated besides).operands = .ok plains) :
    ∃ negation negations, negated.operands = .ok negation ∧ besides.operands = .ok negations ∧
      plains = negation ++ negations := by
  rcases bind_eq_ok h with ⟨negation, hnegation, hrest⟩
  rcases bind_eq_ok hrest with ⟨negations, hnegations, hplains⟩
  cases hplains
  exact ⟨negation, negations, hnegation, hnegations, rfl⟩

theorem operands_beside_eq_ok (h : (beside negated besides).operands = .ok plains) :
    ∃ negation negations, negated.operands = .ok negation ∧ besides.operands = .ok negations ∧
      plains = negation ++ negations :=
  operands_and_eq_ok h

theorem operands_not_eq_ok (h : (not negated).operands = .ok plains) :
    ∃ inner, negated.operands = .ok inner ∧ plains = inner.map Node.not := by
  rcases bind_eq_ok h with ⟨inner, hinner, hplains⟩
  cases hplains
  exact ⟨inner, hinner, rfl⟩

theorem operands_parentheses_eq_ok (h : (parentheses others).operands = .ok plains) :
    ∃ disjuncts, others.operands = .ok disjuncts ∧ plains = [.or disjuncts] := by
  rcases bind_eq_ok h with ⟨disjuncts, hdisjuncts, hplains⟩
  cases hplains
  exact ⟨disjuncts, hdisjuncts, rfl⟩

theorem operands_word_eq_ok {text : Text} (h : (word text).operands = .ok plains) :
    ∃ term, Term.ofText text = .ok term ∧ plains = [.word term] := by
  rcases bind_eq_ok h with ⟨term, hterm, hplains⟩
  cases hplains
  exact ⟨term, hterm, rfl⟩

end

theorem operands_ne_nil {derivation : Derivation rule} {plains : List Node}
    (h : derivation.operands = .ok plains) : plains ≠ [] := by
  induction derivation generalizing plains with
  | conjunction only _ =>
      rcases operands_conjunction_eq_ok h with ⟨conjuncts, _, rfl⟩
      exact List.cons_ne_nil _ _
  | or first others _ _ =>
      rcases operands_or_eq_ok h with ⟨conjuncts, disjuncts, _, _, rfl⟩
      exact List.cons_ne_nil _ _
  | negation only ih => exact ih h
  | and first others ih _ =>
      rcases operands_and_eq_ok h with ⟨negation, negations, hnegation, _, rfl⟩
      exact List.append_ne_nil_of_left_ne_nil (ih hnegation) negations
  | beside first others ih _ =>
      rcases operands_beside_eq_ok h with ⟨negation, negations, hnegation, _, rfl⟩
      exact List.append_ne_nil_of_left_ne_nil (ih hnegation) negations
  | not negated ih =>
      rcases operands_not_eq_ok h with ⟨inner, hinner, rfl⟩
      exact fun hnil => ih hinner (List.map_eq_nil_iff.mp hnil)
  | group only ih => exact ih h
  | parentheses inner _ =>
      rcases operands_parentheses_eq_ok h with ⟨disjuncts, _, rfl⟩
      exact List.cons_ne_nil _ _
  | phrase words =>
      cases h
      exact List.cons_ne_nil _ _
  | word text =>
      rcases operands_word_eq_ok h with ⟨term, _, rfl⟩
      exact List.cons_ne_nil _ _

end

/-!
## Unique derivations
-/

/-- Every derivation begins with a symbol that starts an operand. -/
theorem symbols_eq_cons (derivation : Derivation rule) :
    ∃ symbol rest, derivation.symbols = symbol :: rest ∧
      Structure.startsOperand symbol = true := by
  induction derivation with
  | conjunction only ih => exact ih
  | or first others ih _ =>
      rcases ih with ⟨symbol, rest, hsymbols, hstarts⟩
      exact ⟨symbol, rest ++ .operator .or :: others.symbols, by simp [hsymbols], hstarts⟩
  | negation only ih => exact ih
  | and first others ih _ =>
      rcases ih with ⟨symbol, rest, hsymbols, hstarts⟩
      exact ⟨symbol, rest ++ .operator .and :: others.symbols, by simp [hsymbols], hstarts⟩
  | beside first others ih _ =>
      rcases ih with ⟨symbol, rest, hsymbols, hstarts⟩
      exact ⟨symbol, rest ++ others.symbols, by simp [hsymbols], hstarts⟩
  | not negated _ => exact ⟨.operator .not, negated.symbols, rfl, rfl⟩
  | group only ih => exact ih
  | parentheses inner _ => exact ⟨.opening, inner.symbols ++ [.closing], rfl, rfl⟩
  | phrase words => exact ⟨.phrase words, [], rfl, rfl⟩
  | word text => exact ⟨.word text, [], rfl, rfl⟩

theorem symbols_ne_nil (derivation : Derivation rule) : derivation.symbols ≠ [] := by
  rcases derivation.symbols_eq_cons with ⟨symbol, rest, hsymbols, _⟩
  rw [hsymbols]
  exact List.cons_ne_nil symbol rest

theorem length_lt_append (derivation : Derivation rule) (rest : List Symbol) :
    rest.length < (derivation.symbols ++ rest).length := by
  rw [List.length_append]
  exact Nat.lt_add_of_pos_left (List.length_pos_iff.mpr derivation.symbols_ne_nil)

theorem not_stops_symbols_append (derivation : Derivation rule) (rest : List Symbol) :
    ¬ Rule.conjunction.Stops (derivation.symbols ++ rest) := by
  rcases derivation.symbols_eq_cons with ⟨symbol, more, hsymbols, hstarts⟩
  intro hstops
  rw [hsymbols] at hstops
  have hnot := Rule.not_startsOperand_of_stopsAt (Rule.stops_cons.mp hstops)
  rw [hstarts] at hnot
  cases hnot

theorem symbols_append_ne_and_cons (derivation : Derivation rule) (behind rest : List Symbol) :
    derivation.symbols ++ behind ≠ .operator .and :: rest := by
  rcases derivation.symbols_eq_cons with ⟨symbol, more, hsymbols, hstarts⟩
  intro h
  rw [hsymbols] at h
  injection h with hsymbol _
  rw [hsymbol] at hstarts
  cases hstarts

theorem symbols_append_ne_not_cons (derivation : Derivation .group) (behind rest : List Symbol) :
    derivation.symbols ++ behind ≠ .operator .not :: rest := by
  cases derivation <;> simp

/--
What the derivation spells ends at a place that the symbols alone determine, and is spelled by no
other derivation of its rule.
-/
def Separates (left : Derivation rule) : Prop :=
  ∀ (right : Derivation rule) (behindLeft behindRight : List Symbol),
    rule.Stops behindLeft → rule.Stops behindRight →
      left.symbols ++ behindLeft = right.symbols ++ behindRight →
        left = right ∧ behindLeft = behindRight

theorem separates_conjunction {only : Derivation .conjunction} (honly : only.Separates) :
    (conjunction only).Separates := by
  intro right behindLeft behindRight hleft hright h
  cases right with
  | conjunction only' =>
      rcases honly only' _ _ hleft.conjunction hright.conjunction h with ⟨rfl, hbehind⟩
      exact ⟨rfl, hbehind⟩
  | or first' others' =>
      simp only [symbols_conjunction, symbols_or, List.append_assoc, List.cons_append] at h
      rcases honly first' _ _ hleft.conjunction (Rule.stops_cons.mpr rfl) h with ⟨_, rfl⟩
      cases Rule.stops_cons.mp hleft

theorem separates_or {first : Derivation .conjunction} {others : Derivation .disjunction}
    (hfirst : first.Separates) (hothers : others.Separates) : (or first others).Separates := by
  intro right behindLeft behindRight hleft hright h
  cases right with
  | conjunction only' =>
      simp only [symbols_or, symbols_conjunction, List.append_assoc, List.cons_append] at h
      rcases hfirst only' _ _ (Rule.stops_cons.mpr rfl) hright.conjunction h with ⟨_, rfl⟩
      cases Rule.stops_cons.mp hright
  | or first' others' =>
      simp only [symbols_or, List.append_assoc, List.cons_append] at h
      rcases hfirst first' _ _ (Rule.stops_cons.mpr rfl) (Rule.stops_cons.mpr rfl) h with
        ⟨rfl, hrest⟩
      injection hrest with _ hrest
      rcases hothers others' _ _ hleft hright hrest with ⟨rfl, hbehind⟩
      exact ⟨rfl, hbehind⟩

theorem separates_negation {only : Derivation .negation} (honly : only.Separates) :
    (negation only).Separates := by
  intro right behindLeft behindRight hleft hright h
  cases right with
  | negation only' =>
      rcases honly only' _ _ (Rule.stops_negation _) (Rule.stops_negation _) h with
        ⟨rfl, hbehind⟩
      exact ⟨rfl, hbehind⟩
  | and first' others' =>
      simp only [symbols_negation, symbols_and, List.append_assoc, List.cons_append] at h
      rcases honly first' _ _ (Rule.stops_negation _) (Rule.stops_negation _) h with ⟨_, rfl⟩
      cases Rule.stops_cons.mp hleft
  | beside first' others' =>
      simp only [symbols_negation, symbols_beside, List.append_assoc] at h
      rcases honly first' _ _ (Rule.stops_negation _) (Rule.stops_negation _) h with ⟨_, rfl⟩
      exact absurd hleft (not_stops_symbols_append others' behindRight)

theorem separates_and {first : Derivation .negation} {others : Derivation .conjunction}
    (hfirst : first.Separates) (hothers : others.Separates) : (and first others).Separates := by
  intro right behindLeft behindRight hleft hright h
  cases right with
  | negation only' =>
      simp only [symbols_and, symbols_negation, List.append_assoc, List.cons_append] at h
      rcases hfirst only' _ _ (Rule.stops_negation _) (Rule.stops_negation _) h with ⟨_, rfl⟩
      cases Rule.stops_cons.mp hright
  | and first' others' =>
      simp only [symbols_and, List.append_assoc, List.cons_append] at h
      rcases hfirst first' _ _ (Rule.stops_negation _) (Rule.stops_negation _) h with
        ⟨rfl, hrest⟩
      injection hrest with _ hrest
      rcases hothers others' _ _ hleft hright hrest with ⟨rfl, hbehind⟩
      exact ⟨rfl, hbehind⟩
  | beside first' others' =>
      simp only [symbols_and, symbols_beside, List.append_assoc, List.cons_append] at h
      rcases hfirst first' _ _ (Rule.stops_negation _) (Rule.stops_negation _) h with
        ⟨_, hrest⟩
      exact absurd hrest.symm (symbols_append_ne_and_cons others' _ _)

theorem separates_beside {first : Derivation .negation} {others : Derivation .conjunction}
    (hfirst : first.Separates) (hothers : others.Separates) :
    (beside first others).Separates := by
  intro right behindLeft behindRight hleft hright h
  cases right with
  | negation only' =>
      simp only [symbols_beside, symbols_negation, List.append_assoc] at h
      rcases hfirst only' _ _ (Rule.stops_negation _) (Rule.stops_negation _) h with ⟨_, rfl⟩
      exact absurd hright (not_stops_symbols_append others behindLeft)
  | and first' others' =>
      simp only [symbols_beside, symbols_and, List.append_assoc, List.cons_append] at h
      rcases hfirst first' _ _ (Rule.stops_negation _) (Rule.stops_negation _) h with
        ⟨_, hrest⟩
      exact absurd hrest (symbols_append_ne_and_cons others _ _)
  | beside first' others' =>
      simp only [symbols_beside, List.append_assoc] at h
      rcases hfirst first' _ _ (Rule.stops_negation _) (Rule.stops_negation _) h with
        ⟨rfl, hrest⟩
      rcases hothers others' _ _ hleft hright hrest with ⟨rfl, hbehind⟩
      exact ⟨rfl, hbehind⟩

theorem separates_not {negated : Derivation .negation} (hnegated : negated.Separates) :
    (not negated).Separates := by
  intro right behindLeft behindRight hleft hright h
  cases right with
  | not negated' =>
      injection h with _ h
      rcases hnegated negated' _ _ hleft hright h with ⟨rfl, hbehind⟩
      exact ⟨rfl, hbehind⟩
  | group only' => exact absurd h.symm (symbols_append_ne_not_cons only' _ _)

theorem separates_group {only : Derivation .group} (honly : only.Separates) :
    (group only).Separates := by
  intro right behindLeft behindRight _ _ h
  cases right with
  | not negated' => exact absurd h (symbols_append_ne_not_cons only _ _)
  | group only' =>
      rcases honly only' _ _ (Rule.stops_group _) (Rule.stops_group _) h with ⟨rfl, hbehind⟩
      exact ⟨rfl, hbehind⟩

theorem separates_parentheses {inner : Derivation .disjunction} (hinner : inner.Separates) :
    (parentheses inner).Separates := by
  intro right behindLeft behindRight _ _ h
  cases right with
  | parentheses inner' =>
      simp only [symbols_parentheses, List.append_assoc, List.cons_append, List.nil_append] at h
      injection h with _ h
      rcases hinner inner' _ _ (Rule.stops_cons.mpr rfl) (Rule.stops_cons.mpr rfl) h with
        ⟨rfl, hbehind⟩
      injection hbehind with _ hbehind
      exact ⟨rfl, hbehind⟩
  | phrase words' => cases h
  | word text' => cases h

theorem separates (derivation : Derivation rule) : derivation.Separates := by
  induction derivation with
  | conjunction only ih => exact separates_conjunction ih
  | or first others ihFirst ihOthers => exact separates_or ihFirst ihOthers
  | negation only ih => exact separates_negation ih
  | and first others ihFirst ihOthers => exact separates_and ihFirst ihOthers
  | beside first others ihFirst ihOthers => exact separates_beside ihFirst ihOthers
  | not negated ih => exact separates_not ih
  | group only ih => exact separates_group ih
  | parentheses inner ih => exact separates_parentheses ih
  | phrase words =>
      intro right behindLeft behindRight _ _ h
      cases right <;> cases h
      exact ⟨rfl, rfl⟩
  | word text =>
      intro right behindLeft behindRight _ _ h
      cases right <;> cases h
      exact ⟨rfl, rfl⟩

/-- The grammar is unambiguous. -/
theorem symbols_inj {left right : Derivation rule} (h : left.symbols = right.symbols) :
    left = right := by
  have happend : left.symbols ++ [] = right.symbols ++ [] := by rw [h]
  exact (left.separates right [] [] rule.stops_nil rule.stops_nil happend).left

end Derivation
end Grammar
end PaperFilter
