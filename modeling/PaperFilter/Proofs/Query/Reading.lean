import PaperFilter.Proofs.Front
import PaperFilter.Proofs.Query.Derivation
import PaperFilter.Proofs.Query.NormalForm

/-!
# Reading a derivation

The rules of the grammar are functions that read a tree off the front of the lexemes.  Where some
derivation spells the lexemes in front, its rule reads exactly these, and gives the normal form of
the tree of the derivation, or the error of its first word that does not compile.
-/

namespace PaperFilter

namespace Grammar

variable [PatternCompiler]

/-!
## The rules without their bounds
-/

/-- The tree that a rule reads, and what it leaves. -/
def read (finish : Nat) : Rule → List Lexeme → Except QueryError (Node × List Lexeme)
  | .disjunction, lexemes => (orExpr finish lexemes).map Shorter.parts
  | .conjunction, lexemes => (andExpr finish lexemes).map Shorter.parts
  | .negation, lexemes => (notExpr finish lexemes).map Shorter.parts
  | .group, lexemes => (group finish lexemes).map Shorter.parts

/-- The trees that follow the first one in a disjunction or a conjunction. -/
def readOthers (finish : Nat) : Rule → List Lexeme → Except QueryError (List Node × List Lexeme)
  | .disjunction, lexemes => (orOthers finish lexemes).map NoLonger.parts
  | .conjunction, lexemes => (andOthers finish lexemes).map NoLonger.parts
  | .negation, lexemes => .ok ([], lexemes)
  | .group, lexemes => .ok ([], lexemes)

/-- The rule whose trees a rule puts side by side. -/
def Rule.operand : Rule → Rule
  | .disjunction => .conjunction
  | .conjunction => .negation
  | .negation => .negation
  | .group => .group

/-- The trees that a rule reads side by side. -/
def readOperands (finish : Nat) (rule : Rule) (lexemes : List Lexeme) :
    Except QueryError (List Node × List Lexeme) := do
  let first ← read finish rule.operand lexemes
  let others ← readOthers finish rule first.2
  return (first.1 :: others.1, others.2)

variable (finish : Nat)

theorem map_readOperands {δ : Type} (rule : Rule) (lexemes : List Lexeme)
    (f : List Node → δ) :
    (readOperands finish rule lexemes).map (fun found => (f found.1, found.2)) = do
      let first ← read finish rule.operand lexemes
      let others ← readOthers finish rule first.2
      return (f (first.1 :: others.1), others.2) := by
  rw [readOperands]
  cases read finish rule.operand lexemes with
  | error error => rfl
  | ok first =>
      simp only [Except.map, bind, Except.bind]
      cases readOthers finish rule first.2 with
      | error error => rfl
      | ok others => rfl

theorem read_disjunction (lexemes : List Lexeme) :
    read finish .disjunction lexemes =
      (readOperands finish .disjunction lexemes).map fun found =>
        (Node.disjunction found.1, found.2) := by
  rw [read, orExpr, map_parts_bind (orOthers finish)
    (fun first others => Node.disjunction (first :: others)) fun _ _ => rfl, map_readOperands]
  rfl

theorem read_conjunction (lexemes : List Lexeme) :
    read finish .conjunction lexemes =
      (readOperands finish .conjunction lexemes).map fun found =>
        (Node.conjunction found.1, found.2) := by
  rw [read, andExpr, map_parts_bind (andOthers finish)
    (fun first others => Node.conjunction (first :: others)) fun _ _ => rfl, map_readOperands]
  rfl

theorem readOthers_or (position : Nat) (rest : List Lexeme) :
    readOthers finish .disjunction (⟨.operator .or, position⟩ :: rest) =
      readOperands finish .disjunction rest := by
  rw [readOthers, orOthers]
  exact map_parts_bind (orOthers finish) List.cons fun _ _ => rfl

theorem readOthers_and (position : Nat) (rest : List Lexeme) :
    readOthers finish .conjunction (⟨.operator .and, position⟩ :: rest) =
      readOperands finish .conjunction rest := by
  rw [readOthers, andOthers]
  exact map_parts_bind (andOthers finish) List.cons fun _ _ => rfl

theorem readOthers_beside {lexeme : Lexeme} (rest : List Lexeme)
    (hstarts : Structure.startsOperand lexeme.symbol = true) :
    readOthers finish .conjunction (lexeme :: rest) =
      readOperands finish .conjunction (lexeme :: rest) := by
  rw [readOthers, andOthers]
  · exact map_parts_bind (andOthers finish) List.cons fun _ _ => rfl
  all_goals
    intros
    subst lexeme
    cases hstarts

theorem readOthers_disjunction_of_ne_or {lexemes : List Lexeme}
    (h : ∀ rest, lexemes.map Lexeme.symbol ≠ .operator .or :: rest) :
    readOthers finish .disjunction lexemes = .ok ([], lexemes) := by
  rw [readOthers, orOthers]
  · rfl
  · rintro position rest rfl
    exact h _ rfl

theorem readOthers_of_stops (rule : Rule) {lexemes : List Lexeme}
    (h : rule.Stops (lexemes.map Lexeme.symbol)) :
    readOthers finish rule lexemes = .ok ([], lexemes) := by
  cases rule with
  | disjunction =>
      apply readOthers_disjunction_of_ne_or
      intro rest hrest
      rw [hrest] at h
      cases Rule.stops_cons.mp h
  | conjunction =>
      cases lexemes with
      | nil => rw [readOthers, andOthers]; rfl
      | cons lexeme rest =>
          rcases lexeme with ⟨symbol, position⟩
          have hstops := Rule.stops_cons.mp h
          simp only [Rule.stopsAt, Bool.or_eq_true, decide_eq_true_eq] at hstops
          rcases hstops with rfl | rfl
          · rw [readOthers, andOthers]; rfl
          · rw [readOthers, andOthers]; rfl
  | negation => rfl
  | group => rfl

theorem read_not (position : Nat) (rest : List Lexeme) :
    read finish .negation (⟨.operator .not, position⟩ :: rest) =
      (read finish .negation rest).map fun found => (.not found.1, found.2) := by
  rw [read, read, notExpr]
  cases notExpr finish rest with
  | error error => rfl
  | ok child => rfl

theorem read_negation_of_ne_not {lexemes : List Lexeme}
    (h : ∀ rest, lexemes.map Lexeme.symbol ≠ .operator .not :: rest) :
    read finish .negation lexemes = read finish .group lexemes := by
  rw [read, read, notExpr]
  rintro position rest rfl
  exact h _ rfl

/-- What stands behind an opening parenthesis, where a closing one follows. -/
def closed (inner : Node × List Lexeme) : Except QueryError (Node × List Lexeme) :=
  if inner.2.head?.map Lexeme.symbol = some .closing then .ok (inner.1, inner.2.tail)
  else .error (unexpected finish inner.2)

theorem read_opening (position : Nat) (rest : List Lexeme) :
    read finish .group (⟨.opening, position⟩ :: rest) =
      (read finish .disjunction rest).bind (closed finish) := by
  rw [read, read, group]
  cases orExpr finish rest with
  | error error => rfl
  | ok inner =>
      rcases inner with ⟨tree, behind, hlt⟩
      cases behind with
      | nil => rfl
      | cons next more =>
          rcases next with ⟨symbol, position'⟩
          cases symbol <;> rfl

theorem read_parentheses {position position' : Nat} {lexemes behind : List Lexeme}
    {inner : Except QueryError Node}
    (h : read finish .disjunction lexemes =
      inner.map fun tree => (tree, ⟨.closing, position'⟩ :: behind)) :
    read finish .group (⟨.opening, position⟩ :: lexemes) =
      inner.map fun tree => (tree, behind) := by
  rw [read_opening, h]
  cases inner <;> rfl

theorem read_phrase (words : List Text) (position : Nat) (rest : List Lexeme) :
    read finish .group (⟨.phrase words, position⟩ :: rest) = .ok (.phrase words, rest) := by
  rw [read, group]
  rfl

theorem read_word (text : Text) (position : Nat) (rest : List Lexeme) :
    read finish .group (⟨.word text, position⟩ :: rest) =
      (Term.ofText text).map fun term => (.word term, rest) := by
  rw [read, group]
  cases Term.ofText text with
  | error error => rfl
  | ok term => rfl

/-!
## Reading what a derivation spells
-/

/-- What a rule reads in front of some lexemes is what a derivation gives. -/
def Reads (finish : Nat) {rule : Rule} (derivation : Derivation rule) : Prop :=
  ∀ front rest : List Lexeme,
    front.map Lexeme.symbol = derivation.symbols → rule.Stops (rest.map Lexeme.symbol) →
      readOperands finish rule (front ++ rest) =
        derivation.operands.map fun plain => (plain.map Node.normal, rest)

theorem readOperands_disjunction (lexemes : List Lexeme) :
    readOperands finish .disjunction lexemes = do
      let first ← readOperands finish .conjunction lexemes
      let others ← readOthers finish .disjunction first.2
      return (Node.conjunction first.1 :: others.1, others.2) := by
  rw [readOperands, Rule.operand, read_conjunction]
  cases readOperands finish .conjunction lexemes <;> rfl

theorem readOperands_conjunction (lexemes : List Lexeme) :
    readOperands finish .conjunction lexemes = do
      let first ← readOperands finish .negation lexemes
      let others ← readOthers finish .conjunction first.2
      return (first.1 ++ others.1, others.2) := by
  rw [readOperands, readOperands, Rule.operand, Rule.operand]
  cases read finish .negation lexemes <;> rfl

theorem readOperands_negation (lexemes : List Lexeme) :
    readOperands finish .negation lexemes =
      (read finish .negation lexemes).map fun found => ([found.1], found.2) := by
  rw [readOperands, Rule.operand]
  cases read finish .negation lexemes <;> rfl

theorem readOperands_group (lexemes : List Lexeme) :
    readOperands finish .group lexemes =
      (read finish .group lexemes).map fun found => ([found.1], found.2) := by
  rw [readOperands, Rule.operand]
  cases read finish .group lexemes <;> rfl

variable {finish}

theorem reads_conjunction {only : Derivation .conjunction} (honly : Reads finish only) :
    Reads finish (.conjunction only) := by
  intro front rest hfront hstops
  have hread := honly front rest hfront hstops.conjunction
  have hothers := readOthers_of_stops finish .disjunction hstops
  rw [readOperands_disjunction, hread, Derivation.operands_conjunction]
  cases only.operands with
  | error error => rfl
  | ok plain =>
      simp only [Except.map, bind, Except.bind, hothers, pure, Except.pure, List.map_cons,
        List.map_nil, Node.normal, Node.normals_eq_map]

theorem reads_or {first : Derivation .conjunction} {others : Derivation .disjunction}
    (hfirst : Reads finish first) (hothers : Reads finish others) :
    Reads finish (.or first others) := by
  intro front rest hfront hstops
  rcases List.map_eq_append_iff.mp hfront with ⟨front₁, back, rfl, hfront₁, hback⟩
  rcases List.map_eq_cons_iff.mp hback with ⟨⟨_, position⟩, front₂, rfl, rfl, hfront₂⟩
  have hreadFirst := hfirst front₁ (⟨.operator .or, position⟩ :: (front₂ ++ rest)) hfront₁
    (Rule.stops_cons.mpr rfl)
  have hreadOthers := hothers front₂ rest hfront₂ hstops
  rw [List.append_assoc, List.cons_append, readOperands_disjunction, hreadFirst,
    Derivation.operands_or]
  cases first.operands with
  | error error => rfl
  | ok conjuncts =>
      simp only [Except.map, bind, Except.bind, readOthers_or, hreadOthers]
      cases others.operands with
      | error error => rfl
      | ok disjuncts =>
          simp only [pure, Except.pure, List.map_cons, Node.normal, Node.normals_eq_map]

theorem reads_negation {only : Derivation .negation} (honly : Reads finish only) :
    Reads finish (.negation only) := by
  intro front rest hfront hstops
  have hread := honly front rest hfront (Rule.stops_negation _)
  have hothers := readOthers_of_stops finish .conjunction hstops
  rw [readOperands_conjunction, hread, Derivation.operands_negation]
  cases only.operands with
  | error error => rfl
  | ok plain =>
      simp only [Except.map, bind, Except.bind, hothers, pure, Except.pure, List.append_nil]

theorem reads_and {first : Derivation .negation} {others : Derivation .conjunction}
    (hfirst : Reads finish first) (hothers : Reads finish others) :
    Reads finish (.and first others) := by
  intro front rest hfront hstops
  rcases List.map_eq_append_iff.mp hfront with ⟨front₁, back, rfl, hfront₁, hback⟩
  rcases List.map_eq_cons_iff.mp hback with ⟨⟨_, position⟩, front₂, rfl, rfl, hfront₂⟩
  have hreadFirst := hfirst front₁ (⟨.operator .and, position⟩ :: (front₂ ++ rest)) hfront₁
    (Rule.stops_negation _)
  have hreadOthers := hothers front₂ rest hfront₂ hstops
  rw [List.append_assoc, List.cons_append, readOperands_conjunction, hreadFirst,
    Derivation.operands_and]
  cases first.operands with
  | error error => rfl
  | ok negation =>
      simp only [Except.map, bind, Except.bind, readOthers_and, hreadOthers]
      cases others.operands with
      | error error => rfl
      | ok negations => simp only [pure, Except.pure, List.map_append]

theorem reads_beside {first : Derivation .negation} {others : Derivation .conjunction}
    (hfirst : Reads finish first) (hothers : Reads finish others) :
    Reads finish (.beside first others) := by
  intro front rest hfront hstops
  rcases List.map_eq_append_iff.mp hfront with ⟨front₁, front₂, rfl, hfront₁, hfront₂⟩
  have hreadFirst := hfirst front₁ (front₂ ++ rest) hfront₁ (Rule.stops_negation _)
  have hreadOthers := hothers front₂ rest hfront₂ hstops
  -- What follows begins an operand, so the loop reads it without an `and` in front.
  rcases others.symbols_eq_cons with ⟨symbol, more, hsymbols, hstarts⟩
  rw [hsymbols] at hfront₂
  rcases List.map_eq_cons_iff.mp hfront₂ with ⟨lexeme, front₃, rfl, rfl, _⟩
  rw [List.cons_append] at hreadFirst hreadOthers
  rw [List.append_assoc, List.cons_append, readOperands_conjunction, hreadFirst,
    Derivation.operands_beside, Derivation.operands_and]
  cases first.operands with
  | error error => rfl
  | ok negation =>
      simp only [Except.map, bind, Except.bind, readOthers_beside finish _ hstarts, hreadOthers]
      cases others.operands with
      | error error => rfl
      | ok negations => simp only [pure, Except.pure, List.map_append]

theorem reads_not {negated : Derivation .negation} (hnegated : Reads finish negated) :
    Reads finish (.not negated) := by
  intro front rest hfront hstops
  rcases List.map_eq_cons_iff.mp hfront with ⟨⟨_, position⟩, front₁, rfl, rfl, hfront₁⟩
  have hread := hnegated front₁ rest hfront₁ hstops
  rw [readOperands_negation] at hread
  rw [List.cons_append, readOperands_negation, read_not, Derivation.operands_not]
  rcases of_map_eq_map hread with ⟨error, hfound, hplain⟩ | ⟨found, plain, hfound, hplain, heq⟩
  · rw [hfound, hplain]
    rfl
  · injection heq with hvalue hrest
    rcases List.map_eq_singleton_iff.mp hvalue.symm with ⟨only, rfl, honly⟩
    simp only [hfound, hplain, Except.map, bind, Except.bind, pure, Except.pure, List.map_cons,
      List.map_nil, Node.normal, honly, hrest]

theorem reads_group {only : Derivation .group} (honly : Reads finish only) :
    Reads finish (.group only) := by
  intro front rest hfront hstops
  have hread := honly front rest hfront (Rule.stops_group _)
  have hnot : ∀ more, (front ++ rest).map Lexeme.symbol ≠ .operator .not :: more := by
    intro more
    rw [List.map_append, hfront]
    exact only.symbols_append_ne_not_cons _ _
  rw [readOperands_negation, read_negation_of_ne_not finish hnot, ← readOperands_group, hread,
    Derivation.operands_group]

theorem reads_parentheses {inner : Derivation .disjunction} (hinner : Reads finish inner) :
    Reads finish (.parentheses inner) := by
  intro front rest hfront hstops
  rcases List.map_eq_cons_iff.mp hfront with ⟨⟨_, position⟩, back, rfl, rfl, hback⟩
  rcases List.map_eq_append_iff.mp hback with ⟨front₁, last, rfl, hfront₁, hlast⟩
  rcases List.map_eq_cons_iff.mp hlast with ⟨⟨_, position'⟩, empty, rfl, rfl, hempty⟩
  rcases List.map_eq_nil_iff.mp hempty with rfl
  have hread := hinner front₁ (⟨.closing, position'⟩ :: rest) hfront₁ (Rule.stops_cons.mpr rfl)
  have htree : read finish .disjunction (front₁ ++ ⟨.closing, position'⟩ :: rest) =
      (inner.operands.map fun plain => Node.disjunction (plain.map Node.normal)).map fun tree =>
        (tree, ⟨.closing, position'⟩ :: rest) := by
    rw [read_disjunction, hread]
    cases inner.operands <;> rfl
  rw [List.cons_append, List.append_assoc, List.singleton_append, readOperands_group,
    read_parentheses finish htree, Derivation.operands_parentheses]
  cases inner.operands with
  | error error => rfl
  | ok plain =>
      simp only [Except.map, bind, Except.bind, pure, Except.pure, List.map_cons, List.map_nil,
        Node.normal, Node.normals_eq_map]

theorem reads (finish : Nat) {rule : Rule} (derivation : Derivation rule) :
    Reads finish derivation := by
  induction derivation with
  | conjunction only ih => exact reads_conjunction ih
  | or first others ihFirst ihOthers => exact reads_or ihFirst ihOthers
  | negation only ih => exact reads_negation ih
  | and first others ihFirst ihOthers => exact reads_and ihFirst ihOthers
  | beside first others ihFirst ihOthers => exact reads_beside ihFirst ihOthers
  | not negated ih => exact reads_not ih
  | group only ih => exact reads_group ih
  | parentheses inner ih => exact reads_parentheses ih
  | phrase words =>
      intro front rest hfront _
      rcases List.map_eq_singleton_iff.mp hfront with ⟨⟨_, position⟩, rfl, rfl⟩
      rw [List.singleton_append, readOperands_group, read_phrase]
      rfl
  | word text =>
      intro front rest hfront _
      rcases List.map_eq_singleton_iff.mp hfront with ⟨⟨_, position⟩, rfl, rfl⟩
      rw [List.singleton_append, readOperands_group, read_word, Derivation.operands_word]
      cases Term.ofText text <;> rfl

/-- A rule that a derivation spells completely reads the normal form of its tree. -/
theorem read_eq_tree (finish : Nat) {derivation : Derivation .disjunction}
    {lexemes : List Lexeme} (h : derivation.symbols = lexemes.map Lexeme.symbol) :
    read finish .disjunction lexemes =
      derivation.tree.map fun plain => (plain.normal, []) := by
  have hread := reads finish derivation lexemes [] h.symm (Rule.stops_nil _)
  rw [List.append_nil] at hread
  rw [read_disjunction, hread, Derivation.tree]
  cases derivation.operands with
  | error error => rfl
  | ok plain =>
      simp only [Except.map, bind, Except.bind, pure, Except.pure, Node.normal,
        Node.normals_eq_map]

theorem tree_eq (finish : Nat) {derivation : Derivation .disjunction}
    {lexemes : List Lexeme} (h : derivation.symbols = lexemes.map Lexeme.symbol) :
    tree finish lexemes = derivation.tree.map Node.normal := by
  have hread := read_eq_tree finish h
  rw [read] at hread
  rw [tree]
  rcases of_map_eq_map hread with ⟨error, hfound, hplain⟩ | ⟨found, plain, hfound, hplain, heq⟩
  · rw [hfound, hplain]
    rfl
  · injection heq with hvalue hrest
    simp only [hfound, hplain, bind, Except.bind, hrest, List.isEmpty_nil, if_true, hvalue,
      Except.map, pure, Except.pure]

end Grammar
end PaperFilter
