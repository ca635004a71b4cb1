import PaperFilter.Proofs.Query.Derivation
import PaperFilter.Proofs.Query.Structure

/-!
# The structure check and the grammar

The symbols that have linked neighbours and matched parentheses are those that some derivation
spells: the check and the grammar refuse the same queries, the limit on nesting apart.
-/

namespace PaperFilter
namespace Grammar

open Structure

variable {rule : Rule}

/-!
## From a derivation to its symbols
-/

namespace Derivation

theorem linked_symbols_append (derivation : Derivation rule) (ended : Bool)
    (rest : List Symbol) :
    Linked ended (derivation.symbols ++ rest) ↔ Linked true rest := by
  induction derivation generalizing ended rest with
  | conjunction only ih => exact ih ended rest
  | or first others ihFirst ihOthers =>
      rw [symbols_or, List.append_assoc, ihFirst, List.cons_append, Linked, ihOthers]
      simp
  | negation only ih => exact ih ended rest
  | and first others ihFirst ihOthers =>
      rw [symbols_and, List.append_assoc, ihFirst, List.cons_append, Linked, ihOthers]
      simp
  | beside first others ihFirst ihOthers =>
      rw [symbols_beside, List.append_assoc, ihFirst, ihOthers]
  | not negated ih =>
      rw [symbols_not, List.cons_append, Linked, ih]
      simp [startsOperand]
  | group only ih => exact ih ended rest
  | parentheses inner ih =>
      rw [symbols_parentheses, List.cons_append, Linked, List.append_assoc, ih,
        List.singleton_append, Linked]
      simp [startsOperand, endsOperand]
  | phrase words => simp [Linked, startsOperand, endsOperand]
  | word text => simp [Linked, startsOperand, endsOperand]

theorem closes_symbols_append (derivation : Derivation rule) {opened : Int}
    (hopened : 0 ≤ opened) (rest : List Symbol) :
    Closes opened (derivation.symbols ++ rest) ↔ Closes opened rest := by
  induction derivation generalizing opened rest with
  | conjunction only ih => exact ih hopened rest
  | or first others ihFirst ihOthers =>
      rw [symbols_or, List.append_assoc, ihFirst hopened, List.cons_append, Closes, rise,
        Int.add_zero, ihOthers hopened]
      exact and_iff_right hopened
  | negation only ih => exact ih hopened rest
  | and first others ihFirst ihOthers =>
      rw [symbols_and, List.append_assoc, ihFirst hopened, List.cons_append, Closes, rise,
        Int.add_zero, ihOthers hopened]
      exact and_iff_right hopened
  | beside first others ihFirst ihOthers =>
      rw [symbols_beside, List.append_assoc, ihFirst hopened, ihOthers hopened]
  | not negated ih =>
      rw [symbols_not, List.cons_append, Closes, rise, Int.add_zero, ih hopened]
      exact and_iff_right hopened
  | group only ih => exact ih hopened rest
  | parentheses inner ih =>
      have hinner : 0 ≤ opened + 1 := by omega
      have hback : opened + 1 + -1 = opened := by omega
      rw [symbols_parentheses, List.cons_append, Closes, rise, List.append_assoc, ih hinner,
        List.singleton_append, Closes, rise, hback]
      simp [hopened, hinner]
  | phrase words => simp [Closes, rise, hopened]
  | word text => simp [Closes, rise, hopened]

theorem linked_symbols (derivation : Derivation rule) : Linked false derivation.symbols := by
  have h := linked_symbols_append derivation false []
  rw [List.append_nil] at h
  exact h.mpr rfl

theorem closes_symbols (derivation : Derivation rule) : Closes 0 derivation.symbols := by
  have h := closes_symbols_append derivation (Int.le_refl 0) []
  rw [List.append_nil] at h
  exact h.mpr rfl

/-!
## The nesting of a derivation
-/

theorem foldl_risen_symbols (derivation : Derivation rule) (opened : Int) :
    derivation.symbols.foldl risen opened = opened := by
  induction derivation generalizing opened with
  | conjunction only ih => exact ih opened
  | or first others ihFirst ihOthers => simp [ihFirst, ihOthers, risen, rise]
  | negation only ih => exact ih opened
  | and first others ihFirst ihOthers => simp [ihFirst, ihOthers, risen, rise]
  | beside first others ihFirst ihOthers => simp [ihFirst, ihOthers]
  | not negated ih => simp [ih, risen, rise]
  | group only ih => exact ih opened
  | parentheses inner ih =>
      simp only [symbols_parentheses, List.foldl_cons, List.foldl_append, List.foldl_nil, ih, risen,
        rise]
      omega
  | phrase words => exact Int.add_zero opened
  | word text => exact Int.add_zero opened

/-- No derivation ends with a `not`. -/
theorem foldl_notsBehind_symbols (derivation : Derivation rule) (nots : Nat) :
    derivation.symbols.foldl notsBehind nots = 0 := by
  induction derivation generalizing nots with
  | conjunction only ih => exact ih nots
  | or first others ihFirst ihOthers => simp [ihOthers]
  | negation only ih => exact ih nots
  | and first others ihFirst ihOthers => simp [ihOthers]
  | beside first others ihFirst ihOthers => simp [ihOthers]
  | not negated ih => simp [ih]
  | group only ih => exact ih nots
  | parentheses inner ih => simp [notsBehind]
  | phrase words => rfl
  | word text => rfl

theorem nestsWithin_symbols_append (derivation : Derivation rule) {limit opened : Int}
    {nots : Nat} (rest : List Symbol) :
    NestsWithin limit opened nots (derivation.symbols ++ rest) ↔
      NestsWithin limit opened nots derivation.symbols ∧ NestsWithin limit opened 0 rest := by
  rw [nestsWithin_append, foldl_risen_symbols, foldl_notsBehind_symbols]

theorem le_of_nestsWithin_symbols {derivation : Derivation rule} {limit opened : Int}
    {nots : Nat} (h : NestsWithin limit opened nots derivation.symbols) : opened ≤ limit := by
  induction derivation generalizing opened nots with
  | conjunction only ih => exact ih h
  | or first others ihFirst _ => exact ihFirst ((first.nestsWithin_symbols_append _).mp h).left
  | negation only ih => exact ih h
  | and first others ihFirst _ => exact ihFirst ((first.nestsWithin_symbols_append _).mp h).left
  | beside first others ihFirst _ =>
      exact ihFirst ((first.nestsWithin_symbols_append _).mp h).left
  | not negated ih =>
      have hrest := ih h.right
      rwa [rise, Int.add_zero] at hrest
  | group only ih => exact ih h
  | parentheses inner _ =>
      have hhere := h.left
      simp only [rise] at hhere
      omega
  | phrase words =>
      have hhere := h.left
      simp only [rise] at hhere
      omega
  | word text =>
      have hhere := h.left
      simp only [rise] at hhere
      omega

theorem nestsWithin_parentheses {inner : Derivation .disjunction} {limit opened : Int}
    {nots : Nat} :
    NestsWithin limit opened nots (parentheses inner).symbols ↔
      NestsWithin limit (opened + 1) 0 inner.symbols := by
  have hopening : notsBehind nots .opening = 0 := rfl
  rw [symbols_parentheses, NestsWithin, rise, hopening, inner.nestsWithin_symbols_append]
  constructor
  · rintro ⟨_, hinner, _⟩
    exact hinner
  · intro hinner
    have hopened := le_of_nestsWithin_symbols hinner
    refine ⟨?_, hinner, ?_, trivial⟩
    · omega
    · change opened + 1 + -1 + 0 ≤ limit
      omega

theorem nestsWithin_symbols_append_operator (derivation : Derivation rule) {limit opened : Int}
    {nots : Nat} {keyword : Keyword} (hkeyword : keyword ≠ .not) (rest : List Symbol) :
    NestsWithin limit opened nots (derivation.symbols ++ .operator keyword :: rest) ↔
      NestsWithin limit opened nots derivation.symbols ∧ NestsWithin limit opened 0 rest := by
  have hbehind : notsBehind 0 (.operator keyword) = 0 :=
    if_neg fun h => hkeyword (Symbol.operator.inj h)
  rw [nestsWithin_symbols_append, NestsWithin, rise, hbehind, Int.add_zero]
  constructor
  · rintro ⟨hhere, _, hrest⟩
    exact ⟨hhere, hrest⟩
  · rintro ⟨hhere, hrest⟩
    have hopened := le_of_nestsWithin_symbols hhere
    refine ⟨hhere, ?_, hrest⟩
    omega

end Derivation

/-!
## From symbols to a derivation
-/

/-- A derivation of a rule can be read off the front of the symbols, and leaves them well-formed. -/
def Rule.Covers (rule : Rule) (opened : Int) (symbols : List Symbol) : Prop :=
  ∃ (derivation : Derivation rule) (rest : List Symbol),
    symbols = derivation.symbols ++ rest ∧ rule.Stops rest ∧ Linked true rest ∧
      Closes opened rest

/--
Every rule covers the well-formed sequences of symbols that are shorter, but a group does so only
where no `not` stands in front of it.
-/
def CoveredBelow (length : Nat) : Prop :=
  ∀ (rule : Rule) (opened : Int) (symbols : List Symbol),
    rule ≠ .group → symbols.length < length → 0 ≤ opened → Linked false symbols →
      Closes opened symbols → rule.Covers opened symbols

theorem covers_group {opened : Int} {symbols : List Symbol} {symbol : Symbol}
    (hbelow : CoveredBelow (symbol :: symbols).length) (hopened : 0 ≤ opened)
    (hstarts : startsOperand symbol = true) (hnot : symbol ≠ .operator .not)
    (hlinked : Linked (endsOperand symbol) symbols)
    (hcloses : Closes (opened + rise symbol) symbols) :
    Rule.group.Covers opened (symbol :: symbols) := by
  cases symbol with
  | word text =>
      rw [rise, Int.add_zero] at hcloses
      exact ⟨.word text, symbols, rfl, Rule.stops_group symbols, hlinked, hcloses⟩
  | phrase words =>
      rw [rise, Int.add_zero] at hcloses
      exact ⟨.phrase words, symbols, rfl, Rule.stops_group symbols, hlinked, hcloses⟩
  | opening =>
      rw [rise] at hcloses
      rcases hbelow .disjunction (opened + 1) symbols (by decide) (Nat.lt_succ_self _)
        (by omega) hlinked hcloses with ⟨inner, rest, rfl, hstops, hrest, hclosesRest⟩
      cases rest with
      | nil =>
          rw [Closes] at hclosesRest
          omega
      | cons next more =>
          have hnext : next = .closing := of_decide_eq_true (Rule.stops_cons.mp hstops)
          subst hnext
          have hback : opened + 1 + rise .closing = opened := by
            rw [rise]
            omega
          have hclosesMore := hclosesRest.right
          rw [hback] at hclosesMore
          refine ⟨.parentheses inner, more, ?_, Rule.stops_group more, hrest.right, hclosesMore⟩
          simp
  | closing => cases hstarts
  | operator keyword =>
      cases keyword with
      | not => exact absurd rfl hnot
      | and => cases hstarts
      | or => cases hstarts

theorem covers_negation {opened : Int} {symbols : List Symbol}
    (hbelow : CoveredBelow symbols.length) (hopened : 0 ≤ opened)
    (hlinked : Linked false symbols) (hcloses : Closes opened symbols) :
    Rule.negation.Covers opened symbols := by
  rcases hlinked.exists_starts with ⟨symbol, rest, rfl, hstarts⟩
  by_cases hnot : symbol = .operator .not
  · subst hnot
    have hclosesRest := hcloses.right
    rw [rise, Int.add_zero] at hclosesRest
    rcases hbelow .negation opened rest (by decide) (Nat.lt_succ_self _) hopened
      hlinked.right hclosesRest with ⟨negated, behind, rfl, hbehind⟩
    exact ⟨.not negated, behind, rfl, hbehind⟩
  · rcases covers_group hbelow hopened hstarts hnot hlinked.right hcloses.right with
      ⟨group, behind, hsymbols, _, hbehind⟩
    exact ⟨.group group, behind, hsymbols, Rule.stops_negation behind, hbehind⟩

theorem covers_conjunction {opened : Int} {symbols : List Symbol}
    (hbelow : CoveredBelow symbols.length) (hopened : 0 ≤ opened)
    (hlinked : Linked false symbols) (hcloses : Closes opened symbols) :
    Rule.conjunction.Covers opened symbols := by
  rcases covers_negation hbelow hopened hlinked hcloses with
    ⟨first, rest, rfl, _, hrest, hclosesRest⟩
  have hshorter := first.length_lt_append rest
  by_cases hstops : Rule.conjunction.Stops rest
  · exact ⟨.negation first, rest, rfl, hstops, hrest, hclosesRest⟩
  · rcases Rule.exists_cons_of_not_stops hstops with ⟨symbol, more, rfl, rfl | hstarts⟩
    · have hclosesMore := hclosesRest.right
      rw [rise, Int.add_zero] at hclosesMore
      rcases hbelow .conjunction opened more (by decide) (Nat.lt_of_succ_lt hshorter) hopened
        hrest.right hclosesMore with ⟨others, behind, rfl, hbehind⟩
      exact ⟨.and first others, behind, by simp, hbehind⟩
    · rcases hbelow .conjunction opened (symbol :: more) (by decide) hshorter hopened
        (hrest.of_starts hstarts) hclosesRest with ⟨others, behind, hothers, hbehind⟩
      exact ⟨.beside first others, behind, by simp [hothers], hbehind⟩

theorem covers_disjunction {opened : Int} {symbols : List Symbol}
    (hbelow : CoveredBelow symbols.length) (hopened : 0 ≤ opened)
    (hlinked : Linked false symbols) (hcloses : Closes opened symbols) :
    Rule.disjunction.Covers opened symbols := by
  rcases covers_conjunction hbelow hopened hlinked hcloses with
    ⟨first, rest, rfl, hstops, hrest, hclosesRest⟩
  have hshorter := first.length_lt_append rest
  rcases hstops.eq_or_cons_or with hstops | ⟨more, rfl⟩
  · exact ⟨.conjunction first, rest, rfl, hstops, hrest, hclosesRest⟩
  · have hclosesMore := hclosesRest.right
    rw [rise, Int.add_zero] at hclosesMore
    rcases hbelow .disjunction opened more (by decide) (Nat.lt_of_succ_lt hshorter) hopened
      hrest.right hclosesMore with ⟨others, behind, rfl, hbehind⟩
    exact ⟨.or first others, behind, by simp, hbehind⟩

theorem coveredBelow (length : Nat) : CoveredBelow length := by
  induction length with
  | zero =>
      intro _ _ symbols _ hlength
      exact absurd hlength (Nat.not_lt_zero _)
  | succ length ih =>
      intro rule opened symbols hrule hlength hopened hlinked hcloses
      have hbelow : CoveredBelow symbols.length := by
        intro rule' opened' symbols' hrule' hlength'
        exact ih rule' opened' symbols' hrule'
          (Nat.lt_of_lt_of_le hlength' (Nat.le_of_lt_succ hlength))
      cases rule with
      | disjunction => exact covers_disjunction hbelow hopened hlinked hcloses
      | conjunction => exact covers_conjunction hbelow hopened hlinked hcloses
      | negation => exact covers_negation hbelow hopened hlinked hcloses
      | group => exact absurd rfl hrule

/-- The grammar spells the symbols with linked neighbours and matched parentheses. -/
theorem exists_derivation_iff (symbols : List Symbol) :
    (∃ derivation : Derivation .disjunction, derivation.symbols = symbols) ↔
      Linked false symbols ∧ Closes 0 symbols := by
  constructor
  · rintro ⟨derivation, rfl⟩
    exact ⟨derivation.linked_symbols, derivation.closes_symbols⟩
  · rintro ⟨hlinked, hcloses⟩
    rcases covers_disjunction (coveredBelow _) (Int.le_refl 0) hlinked hcloses with
      ⟨derivation, rest, rfl, hstops, _, hclosesRest⟩
    cases rest with
    | nil => exact ⟨derivation, (List.append_nil _).symm⟩
    | cons next more =>
        have hnext : next = .closing := of_decide_eq_true (Rule.stops_cons.mp hstops)
        subst hnext
        exact absurd hclosesRest.left (by decide)

/-- The structure check accepts the symbols of the grammar whose nesting keeps within the limit. -/
theorem check_eq_ok_iff_derivation (lexemes : List Lexeme) :
    check lexemes = .ok () ↔
      (∃ derivation : Derivation .disjunction,
          derivation.symbols = lexemes.map Lexeme.symbol) ∧
        nesting (lexemes.map Lexeme.symbol) ≤ maxNesting := by
  rw [check_eq_ok_iff, exists_derivation_iff, and_assoc]

end Grammar
end PaperFilter
