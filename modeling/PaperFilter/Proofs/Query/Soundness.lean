import PaperFilter.Proofs.Query.Groups

/-!
# What is read is derived

The rules read from any lexemes, also from ones that the structure check refuses.  Whatever a rule
reads, some derivation of it spells the lexemes that are read, and gives the trees.  So a rule that
reads anything reads one lexeme at least, and its tree has the words, phrases and negations of the
lexemes, none more and none fewer.
-/

namespace PaperFilter
namespace Grammar

/-!
## What the rule for a group refuses
-/

variable {finish : Nat}

theorem closed_eq_ok {inner : Node × List Lexeme} {node : Node} {rest : List Lexeme}
    (h : closed finish inner = .ok (node, rest)) :
    ∃ position, inner = (node, ⟨.closing, position⟩ :: rest) := by
  rcases inner with ⟨tree, behind⟩
  rw [closed] at h
  split at h
  · next hnext =>
      rcases Option.map_eq_some_iff.mp hnext with ⟨⟨_, position⟩, hhead, rfl⟩
      rcases List.head?_eq_some_iff.mp hhead with ⟨more, rfl⟩
      cases h
      exact ⟨position, rfl⟩
  · cases h

theorem read_group_nil [PatternCompiler] :
    read finish .group [] = .error (unexpected finish []) := by
  rw [read, group]
  · rfl
  all_goals simp

theorem read_group_of_not_isLeaf [PatternCompiler] (symbol : Symbol) (hopening : symbol ≠ .opening)
    (hleaf : symbol.isLeaf = false) (position : Nat) (rest : List Lexeme) :
    read finish .group (⟨symbol, position⟩ :: rest) =
      .error (unexpected finish (⟨symbol, position⟩ :: rest)) := by
  cases symbol with
  | word text => cases hleaf
  | phrase words => cases hleaf
  | opening => exact absurd rfl hopening
  | closing =>
      rw [read, group]
      · rfl
      all_goals simp
  | operator keyword =>
      rw [read, group]
      · rfl
      all_goals simp

/-!
## Derivations of what is read
-/

theorem ne_nil_of_map_symbol {rule : Rule} {derivation : Derivation rule} {front : List Lexeme}
    (h : front.map Lexeme.symbol = derivation.symbols) : front ≠ [] := by
  rintro rfl
  exact derivation.symbols_ne_nil h.symm

section

variable [PatternCompiler]

/--
A derivation spells the front of the lexemes.  What was found is the normal forms of the trees that
it puts side by side, with the lexemes behind the front.
-/
def Rule.Yields (rule : Rule) (lexemes : List Lexeme) (found : List Node × List Lexeme) : Prop :=
  ∃ (derivation : Derivation rule) (front : List Lexeme) (plains : List Node),
    lexemes = front ++ found.2 ∧ front.map Lexeme.symbol = derivation.symbols ∧
      derivation.operands = .ok plains ∧ plains.map Node.normal = found.1

theorem Rule.Yields.length_lt {rule : Rule} {lexemes : List Lexeme}
    {found : List Node × List Lexeme} (h : rule.Yields lexemes found) :
    found.2.length < lexemes.length := by
  rcases h with ⟨derivation, front, _, hlexemes, hsymbols, _⟩
  rw [hlexemes, List.length_append]
  exact Nat.lt_add_of_pos_left (List.length_pos_iff.mpr (ne_nil_of_map_symbol hsymbols))

/-- Whatever is read of shorter lexemes is derived. -/
def DerivedBelow (finish length : Nat) : Prop :=
  ∀ (rule : Rule) (lexemes : List Lexeme) (found : List Node × List Lexeme),
    lexemes.length < length → readOperands finish rule lexemes = .ok found →
      rule.Yields lexemes found

section

variable {lexemes : List Lexeme} {found : List Node × List Lexeme}

theorem yields_parentheses {position : Nat}
    (hbelow : DerivedBelow finish (⟨.opening, position⟩ :: lexemes : List Lexeme).length)
    {node : Node} {rest : List Lexeme}
    (h : read finish .group (⟨.opening, position⟩ :: lexemes) = .ok (node, rest)) :
    Rule.group.Yields (⟨.opening, position⟩ :: lexemes) ([node], rest) := by
  rw [read_opening, read_disjunction] at h
  rcases bind_eq_ok h with ⟨inner, hinner, hclosed⟩
  rcases closed_eq_ok hclosed with ⟨position', rfl⟩
  rcases map_eq_ok hinner with ⟨⟨disjuncts, behind⟩, hdisjuncts, heq⟩
  cases heq
  rcases hbelow .disjunction lexemes _ (Nat.lt_succ_self _) hdisjuncts with
    ⟨derivation, front, plains, rfl, hsymbols, hplains, rfl⟩
  refine ⟨.parentheses derivation, ⟨.opening, position⟩ :: (front ++ [⟨.closing, position'⟩]),
    [.or plains], by simp, by simp [hsymbols], ?_, ?_⟩
  · rw [Derivation.operands_parentheses, hplains]
    rfl
  · rw [List.map_singleton, Node.normal, Node.normals_eq_map]

theorem yields_group (hbelow : DerivedBelow finish lexemes.length)
    (h : readOperands finish .group lexemes = .ok found) : Rule.group.Yields lexemes found := by
  rw [readOperands_group] at h
  rcases map_eq_ok h with ⟨⟨node, rest⟩, hread, rfl⟩
  cases lexemes with
  | nil =>
      rw [read_group_nil] at hread
      cases hread
  | cons lexeme more =>
      rcases lexeme with ⟨symbol, position⟩
      cases symbol with
      | word text =>
          rw [read_word] at hread
          rcases map_eq_ok hread with ⟨term, hterm, heq⟩
          cases heq
          refine ⟨.word text, [⟨.word text, position⟩], [.word term], rfl, rfl, ?_, rfl⟩
          rw [Derivation.operands_word, hterm]
          rfl
      | phrase words =>
          rw [read_phrase] at hread
          cases hread
          exact ⟨.phrase words, [⟨.phrase words, position⟩], [.phrase words], rfl, rfl, rfl, rfl⟩
      | opening => exact yields_parentheses hbelow hread
      | closing =>
          rw [read_group_of_not_isLeaf .closing nofun rfl] at hread
          cases hread
      | operator keyword =>
          rw [read_group_of_not_isLeaf (.operator keyword) nofun rfl] at hread
          cases hread

theorem yields_negation (hbelow : DerivedBelow finish lexemes.length)
    (h : readOperands finish .negation lexemes = .ok found) :
    Rule.negation.Yields lexemes found := by
  by_cases hnot : ∃ rest, lexemes.map Lexeme.symbol = .operator .not :: rest
  · rcases hnot with ⟨_, hlexemes⟩
    rcases List.map_eq_cons_iff.mp hlexemes with ⟨⟨_, position⟩, rest, rfl, rfl, _⟩
    rw [readOperands_negation, read_not] at h
    rcases map_eq_ok h with ⟨negation, hnegation, rfl⟩
    rcases map_eq_ok hnegation with ⟨child, hchild, rfl⟩
    have hoperands : readOperands finish .negation rest = .ok ([child.1], child.2) := by
      rw [readOperands_negation, hchild]
      rfl
    rcases hbelow .negation rest _ (Nat.lt_succ_self _) hoperands with
      ⟨derivation, front, plains, hrest, hsymbols, hplains, hnodes⟩
    rcases List.map_eq_singleton_iff.mp hnodes with ⟨plain, rfl, hnormal⟩
    refine ⟨.not derivation, ⟨.operator .not, position⟩ :: front, [.not plain], ?_, ?_, ?_, ?_⟩
    · rw [hrest]
      rfl
    · rw [List.map_cons, hsymbols]
      rfl
    · rw [Derivation.operands_not, hplains]
      rfl
    · rw [List.map_singleton, Node.normal, hnormal]
  · have hne : ∀ rest, lexemes.map Lexeme.symbol ≠ .operator .not :: rest :=
      fun rest hrest => hnot ⟨rest, hrest⟩
    rw [readOperands_negation, read_negation_of_ne_not finish hne, ← readOperands_group] at h
    rcases yields_group hbelow h with ⟨derivation, hderivation⟩
    exact ⟨.group derivation, hderivation⟩

theorem yields_conjunction (hbelow : DerivedBelow finish lexemes.length)
    (h : readOperands finish .conjunction lexemes = .ok found) :
    Rule.conjunction.Yields lexemes found := by
  rw [readOperands_conjunction] at h
  rcases bind_eq_ok h with ⟨⟨negation, rest⟩, hnegation, hrest⟩
  rcases bind_eq_ok hrest with ⟨⟨negations, behind⟩, hothers, heq⟩
  cases heq
  have hfirst := yields_negation hbelow hnegation
  have hshorter := hfirst.length_lt
  rcases hfirst with ⟨first, front, plains, hlexemes, hsymbols, hplains, hnodes⟩
  by_cases hstops : Rule.conjunction.Stops (rest.map Lexeme.symbol)
  · rw [readOthers_of_stops finish .conjunction hstops] at hothers
    cases hothers
    refine ⟨.negation first, front, plains, hlexemes, hsymbols, hplains, ?_⟩
    rw [hnodes, List.append_nil]
  · rcases Rule.exists_cons_of_not_stops hstops with ⟨symbol, more, hmore, hand | hstarts⟩
    · subst hand
      rcases List.map_eq_cons_iff.mp hmore with ⟨⟨_, position⟩, after, rfl, rfl, _⟩
      rw [readOthers_and] at hothers
      rcases hbelow .conjunction after _ (Nat.lt_of_succ_lt hshorter) hothers with
        ⟨others, front', plains', rfl, hsymbols', hplains', rfl⟩
      refine ⟨.and first others, front ++ ⟨.operator .and, position⟩ :: front', plains ++ plains',
        ?_, ?_, ?_, ?_⟩
      · rw [hlexemes, List.append_assoc, List.cons_append]
      · rw [List.map_append, List.map_cons, hsymbols, hsymbols', Derivation.symbols_and]
      · rw [Derivation.operands_and, hplains, hplains']
        rfl
      · rw [List.map_append, hnodes]
    · rcases List.map_eq_cons_iff.mp hmore with ⟨lexeme, after, rfl, rfl, _⟩
      rw [readOthers_beside finish after hstarts] at hothers
      rcases hbelow .conjunction (lexeme :: after) _ hshorter hothers with
        ⟨others, front', plains', hrest, hsymbols', hplains', rfl⟩
      refine ⟨.beside first others, front ++ front', plains ++ plains', ?_, ?_, ?_, ?_⟩
      · rw [hlexemes, List.append_assoc, ← hrest]
      · rw [List.map_append, hsymbols, hsymbols', Derivation.symbols_beside]
      · rw [Derivation.operands_beside, Derivation.operands_and, hplains, hplains']
        rfl
      · rw [List.map_append, hnodes]

theorem yields_disjunction (hbelow : DerivedBelow finish lexemes.length)
    (h : readOperands finish .disjunction lexemes = .ok found) :
    Rule.disjunction.Yields lexemes found := by
  rw [readOperands_disjunction] at h
  rcases bind_eq_ok h with ⟨⟨conjuncts, rest⟩, hconjuncts, hrest⟩
  rcases bind_eq_ok hrest with ⟨⟨disjuncts, behind⟩, hothers, heq⟩
  cases heq
  have hfirst := yields_conjunction hbelow hconjuncts
  have hshorter := hfirst.length_lt
  rcases hfirst with ⟨first, front, plains, hlexemes, hsymbols, hplains, rfl⟩
  by_cases hor : ∃ more, rest.map Lexeme.symbol = .operator .or :: more
  · rcases hor with ⟨_, hmore⟩
    rcases List.map_eq_cons_iff.mp hmore with ⟨⟨_, position⟩, after, rfl, rfl, _⟩
    rw [readOthers_or] at hothers
    rcases hbelow .disjunction after _ (Nat.lt_of_succ_lt hshorter) hothers with
      ⟨others, front', plains', rfl, hsymbols', hplains', rfl⟩
    refine ⟨.or first others, front ++ ⟨.operator .or, position⟩ :: front',
      .and plains :: plains', ?_, ?_, ?_, ?_⟩
    · rw [hlexemes, List.append_assoc, List.cons_append]
    · rw [List.map_append, List.map_cons, hsymbols, hsymbols', Derivation.symbols_or]
    · rw [Derivation.operands_or, hplains, hplains']
      rfl
    · rw [List.map_cons, Node.normal, Node.normals_eq_map]
  · have hne : ∀ more, rest.map Lexeme.symbol ≠ .operator .or :: more :=
      fun more hmore => hor ⟨more, hmore⟩
    rw [readOthers_disjunction_of_ne_or finish hne] at hothers
    cases hothers
    refine ⟨.conjunction first, front, [.and plains], hlexemes, hsymbols, ?_, ?_⟩
    · rw [Derivation.operands_conjunction, hplains]
      rfl
    · rw [List.map_singleton, Node.normal, Node.normals_eq_map]

end

theorem derivedBelow (finish length : Nat) : DerivedBelow finish length := by
  induction length with
  | zero =>
      intro _ lexemes _ hlength
      exact absurd hlength (Nat.not_lt_zero _)
  | succ length ih =>
      intro rule lexemes found hlength h
      have hbelow : DerivedBelow finish lexemes.length := by
        intro rule' lexemes' found' hlength'
        exact ih rule' lexemes' found' (Nat.lt_of_lt_of_le hlength' (Nat.le_of_lt_succ hlength))
      cases rule with
      | disjunction => exact yields_disjunction hbelow h
      | conjunction => exact yields_conjunction hbelow h
      | negation => exact yields_negation hbelow h
      | group => exact yields_group hbelow h

/-!
## What a tree has of the lexemes
-/

/-- Negations and groups are not put side by side. -/
theorem exists_eq_singleton_of_operands {rule : Rule} {derivation : Derivation rule}
    {plains : List Node} (hrule : rule = .negation ∨ rule = .group)
    (h : derivation.operands = .ok plains) : ∃ plain, plains = [plain] := by
  induction derivation generalizing plains with
  | conjunction only _ => rcases hrule with hrule | hrule <;> cases hrule
  | or first others _ _ => rcases hrule with hrule | hrule <;> cases hrule
  | negation only _ => rcases hrule with hrule | hrule <;> cases hrule
  | and first others _ _ => rcases hrule with hrule | hrule <;> cases hrule
  | beside first others _ _ => rcases hrule with hrule | hrule <;> cases hrule
  | not negated ih =>
      rcases Derivation.operands_not_eq_ok h with ⟨inner, hinner, rfl⟩
      rcases ih (Or.inl rfl) hinner with ⟨plain, rfl⟩
      exact ⟨.not plain, rfl⟩
  | group only ih => exact ih (Or.inr rfl) h
  | parentheses inner _ =>
      rcases Derivation.operands_parentheses_eq_ok h with ⟨disjuncts, _, rfl⟩
      exact ⟨.or disjuncts, rfl⟩
  | phrase words =>
      cases h
      exact ⟨.phrase words, rfl⟩
  | word text =>
      rcases Derivation.operands_word_eq_ok h with ⟨term, _, rfl⟩
      exact ⟨.word term, rfl⟩

theorem nots_operands {rule : Rule} {derivation : Derivation rule} {plains : List Node}
    (h : derivation.operands = .ok plains) :
    (plains.map Node.nots).sum = derivation.symbols.count (.operator .not) := by
  induction derivation generalizing plains with
  | conjunction only ih =>
      rcases Derivation.operands_conjunction_eq_ok h with ⟨conjuncts, hconjuncts, rfl⟩
      rw [List.map_singleton, List.sum_singleton, Node.nots_and, ih hconjuncts,
        Derivation.symbols_conjunction]
  | or first others ihFirst ihOthers =>
      rcases Derivation.operands_or_eq_ok h with
        ⟨conjuncts, disjuncts, hconjuncts, hdisjuncts, rfl⟩
      rw [List.map_cons, List.sum_cons, Node.nots_and, ihFirst hconjuncts,
        ihOthers hdisjuncts, Derivation.symbols_or, List.count_append,
        List.count_cons_of_ne (by decide)]
  | negation only ih => exact ih h
  | and first others ihFirst ihOthers =>
      rcases Derivation.operands_and_eq_ok h with
        ⟨negation, negations, hnegation, hnegations, rfl⟩
      rw [List.map_append, List.sum_append, ihFirst hnegation, ihOthers hnegations,
        Derivation.symbols_and, List.count_append, List.count_cons_of_ne (by decide)]
  | beside first others ihFirst ihOthers =>
      rcases Derivation.operands_beside_eq_ok h with
        ⟨negation, negations, hnegation, hnegations, rfl⟩
      rw [List.map_append, List.sum_append, ihFirst hnegation, ihOthers hnegations,
        Derivation.symbols_beside, List.count_append]
  | not negated ih =>
      rcases Derivation.operands_not_eq_ok h with ⟨inner, hinner, rfl⟩
      rcases exists_eq_singleton_of_operands (Or.inl rfl) hinner with ⟨plain, rfl⟩
      have hplain := ih hinner
      rw [List.map_singleton, List.sum_singleton] at hplain
      rw [List.map_singleton, List.map_singleton, List.sum_singleton, Node.nots_not, hplain,
        Derivation.symbols_not, List.count_cons_self]
  | group only ih => exact ih h
  | parentheses inner ih =>
      rcases Derivation.operands_parentheses_eq_ok h with ⟨disjuncts, hdisjuncts, rfl⟩
      rw [List.map_singleton, List.sum_singleton, Node.nots_or, ih hdisjuncts,
        Derivation.symbols_parentheses, List.count_cons_of_ne (by decide), List.count_append,
        List.count_cons_of_ne (by decide), List.count_nil, Nat.add_zero]
  | phrase words =>
      cases h
      rfl
  | word text =>
      rcases Derivation.operands_word_eq_ok h with ⟨term, _, rfl⟩
      rfl

end

/-- Trees that have the words, phrases and negations of some lexemes. -/
structure HasSymbols (nodes : List Node) (lexemes : List Lexeme) : Prop where
  leaves : nodes.flatMap Node.leaves = (lexemes.map Lexeme.symbol).filter Symbol.isLeaf
  nots : (nodes.map Node.nots).sum = (lexemes.map Lexeme.symbol).count (.operator .not)

theorem HasSymbols.join (kind : Node.Kind) {nodes : List Node} {lexemes : List Lexeme}
    (h : HasSymbols nodes lexemes) : HasSymbols [kind.join nodes] lexemes where
  leaves := by rw [List.flatMap_singleton, Node.leaves_join, h.leaves]
  nots := by rw [List.map_singleton, List.sum_singleton, Node.nots_join, h.nots]

variable [PatternCompiler]

theorem hasSymbols_of_readOperands {rule : Rule} {lexemes : List Lexeme}
    {found : List Node × List Lexeme} (h : readOperands finish rule lexemes = .ok found) :
    ∃ front, front ≠ [] ∧ lexemes = front ++ found.2 ∧ HasSymbols found.1 front := by
  rcases derivedBelow finish _ rule lexemes found (Nat.lt_succ_self _) h with
    ⟨derivation, front, plains, hlexemes, hsymbols, hplains, hnodes⟩
  refine ⟨front, ne_nil_of_map_symbol hsymbols, hlexemes, ?_, ?_⟩
  · rw [← hnodes, List.flatMap_map, funext Node.leaves_normal, leaves_operands hplains, hsymbols]
  · rw [← hnodes, List.map_map, hsymbols, ← nots_operands hplains]
    exact congrArg List.sum (List.map_congr_left fun plain _ => Node.nots_normal plain)

/-- Every rule reads one lexeme at least, and leaves none of what it reads out of its tree. -/
theorem hasSymbols_of_read {rule : Rule} {lexemes rest : List Lexeme} {node : Node}
    (h : read finish rule lexemes = .ok (node, rest)) :
    ∃ front, front ≠ [] ∧ lexemes = front ++ rest ∧ HasSymbols [node] front := by
  cases rule with
  | disjunction =>
      rw [read_disjunction] at h
      rcases map_eq_ok h with ⟨⟨disjuncts, behind⟩, hdisjuncts, heq⟩
      cases heq
      rcases hasSymbols_of_readOperands hdisjuncts with ⟨front, hne, hlexemes, hsymbols⟩
      exact ⟨front, hne, hlexemes, hsymbols.join .or⟩
  | conjunction =>
      rw [read_conjunction] at h
      rcases map_eq_ok h with ⟨⟨conjuncts, behind⟩, hconjuncts, heq⟩
      cases heq
      rcases hasSymbols_of_readOperands hconjuncts with ⟨front, hne, hlexemes, hsymbols⟩
      exact ⟨front, hne, hlexemes, hsymbols.join .and⟩
  | negation =>
      have hoperands : readOperands finish .negation lexemes = .ok ([node], rest) := by
        rw [readOperands_negation, h]
        rfl
      exact hasSymbols_of_readOperands hoperands
  | group =>
      have hoperands : readOperands finish .group lexemes = .ok ([node], rest) := by
        rw [readOperands_group, h]
        rfl
      exact hasSymbols_of_readOperands hoperands

end Grammar
end PaperFilter
