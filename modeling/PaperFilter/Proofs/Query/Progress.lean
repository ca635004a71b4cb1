import PaperFilter.Proofs.Query.Soundness

/-!
# Progress by offsets

A parser that leaves the lexemes where they are walks along them by offsets.  Behind an operand it
may look for the next one at the very offset where it stands, so that nothing but the operands
themselves moves it on.  It comes to an end all the same, since no operand is empty, and reads what
the rules read of the lexemes from the offset on.
-/

namespace PaperFilter
namespace Grammar

/-!
## Walking along the lexemes
-/

/-- The symbol at an offset, if the lexemes reach so far. -/
def symbolAt? (lexemes : List Lexeme) (offset : Nat) : Option Symbol :=
  lexemes[offset]?.map Lexeme.symbol

section

variable {lexemes : List Lexeme} {offset : Nat}

theorem lt_length_of_symbolAt? {symbol : Symbol} (h : symbolAt? lexemes offset = some symbol) :
    offset < lexemes.length := by
  rcases Option.map_eq_some_iff.mp h with ⟨lexeme, hlexeme, _⟩
  exact (List.getElem?_eq_some_iff.mp hlexeme).choose

theorem symbolAt?_eq_head? (lexemes : List Lexeme) (offset : Nat) :
    symbolAt? lexemes offset = (lexemes.drop offset).head?.map Lexeme.symbol := by
  rw [symbolAt?, List.head?_drop]

theorem drop_eq_cons_of_symbolAt? {symbol : Symbol} (h : symbolAt? lexemes offset = some symbol) :
    ∃ position, lexemes.drop offset = ⟨symbol, position⟩ :: lexemes.drop (offset + 1) := by
  rcases Option.map_eq_some_iff.mp h with ⟨⟨_, position⟩, hlexeme, rfl⟩
  rcases List.getElem?_eq_some_iff.mp hlexeme with ⟨hlt, hget⟩
  exact ⟨position, by rw [List.drop_eq_getElem_cons hlt, hget]⟩

end

/-- How far behind an operand of a rule the next one begins, where there is one before a symbol. -/
def Rule.gap? : Rule → Symbol → Option Nat
  | .disjunction, symbol => if symbol = .operator .or then some 1 else none
  | .conjunction, symbol =>
      if symbol = .operator .and then some 1
      else if Rule.conjunction.stopsAt symbol then none
      else some 0
  | .negation, _ => none
  | .group, _ => none

section

variable [PatternCompiler] (finish : Nat) (lexemes : List Lexeme)

mutual

/--
What a rule reads at an offset, with the offset behind it, if that takes no more than so many calls
in each other.
-/
def readWithin : (depth : Nat) → Rule → (offset : Nat) → ExceptT QueryError Option (Node × Nat)
  | 0, _, _ => ExceptT.mk none
  | depth + 1, .disjunction, offset => do
      let found ← operandsWithin depth .disjunction offset
      return (Node.disjunction found.1, found.2)
  | depth + 1, .conjunction, offset => do
      let found ← operandsWithin depth .conjunction offset
      return (Node.conjunction found.1, found.2)
  | depth + 1, .negation, offset =>
      if symbolAt? lexemes offset = some (.operator .not) then do
        let child ← readWithin depth .negation (offset + 1)
        return (.not child.1, child.2)
      else readWithin depth .group offset
  | depth + 1, .group, offset =>
      match symbolAt? lexemes offset with
      | some .opening => do
          let inner ← readWithin depth .disjunction (offset + 1)
          if symbolAt? lexemes inner.2 = some .closing then return (inner.1, inner.2 + 1)
          else throw (unexpected finish (lexemes.drop inner.2))
      | some (.phrase words) => return (.phrase words, offset + 1)
      | some (.word text) => do
          let term ← ExceptT.mk (some (Term.ofText text))
          return (.word term, offset + 1)
      | _ => throw (unexpected finish (lexemes.drop offset))

/-- The operands of a rule, the first of them at an offset. -/
def operandsWithin :
    (depth : Nat) → Rule → (offset : Nat) → ExceptT QueryError Option (List Node × Nat)
  | 0, _, _ => ExceptT.mk none
  | depth + 1, rule, offset => do
      let first ← readWithin depth rule.operand offset
      let others ← othersWithin depth rule first.2
      return (first.1 :: others.1, others.2)

/-- The operands of a rule that follow one that ends at an offset. -/
def othersWithin :
    (depth : Nat) → Rule → (offset : Nat) → ExceptT QueryError Option (List Node × Nat)
  | 0, _, _ => ExceptT.mk none
  | depth + 1, rule, offset =>
      match (symbolAt? lexemes offset).bind rule.gap? with
      | none => return ([], offset)
      | some gap => operandsWithin depth rule (offset + gap)

end

end

/-!
## The rules at an offset
-/

/-- What was found at the front of the last lexemes, with the offset where the others begin. -/
def behind {α : Type} (lexemes : List Lexeme) (found : α × List Lexeme) : α × Nat :=
  (found.1, lexemes.length - found.2.length)

theorem behind_drop {α : Type} {lexemes : List Lexeme} {next : Nat} (h : next ≤ lexemes.length)
    (value : α) : behind lexemes (value, lexemes.drop next) = (value, next) := by
  rw [behind, List.length_drop, Nat.sub_sub_self h]

theorem map_behind_closed {finish : Nat} {lexemes : List Lexeme} (inner : Node × Nat) :
    (closed finish (inner.1, lexemes.drop inner.2)).map (behind lexemes) =
      if symbolAt? lexemes inner.2 = some .closing then .ok (inner.1, inner.2 + 1)
      else .error (unexpected finish (lexemes.drop inner.2)) := by
  rw [closed, ← symbolAt?_eq_head?, List.tail_drop]
  split
  · next hclosing => rw [Except.map, behind_drop (lt_length_of_symbolAt? hclosing)]
  · rfl

section

variable [PatternCompiler] (finish : Nat) (lexemes : List Lexeme)

/-- What a rule reads of the lexemes from an offset on, with the offset behind it. -/
def readAt (rule : Rule) (offset : Nat) : Except QueryError (Node × Nat) :=
  (read finish rule (lexemes.drop offset)).map (behind lexemes)

def operandsAt (rule : Rule) (offset : Nat) : Except QueryError (List Node × Nat) :=
  (readOperands finish rule (lexemes.drop offset)).map (behind lexemes)

def othersAt (rule : Rule) (offset : Nat) : Except QueryError (List Node × Nat) :=
  (readOthers finish rule (lexemes.drop offset)).map (behind lexemes)

end

section

variable [PatternCompiler] {finish : Nat} {lexemes : List Lexeme} {rule : Rule} {offset : Nat}

/-- What is left of the lexemes begins further on, and within them. -/
theorem exists_next_of_read {node : Node} {rest : List Lexeme}
    (h : read finish rule (lexemes.drop offset) = .ok (node, rest)) :
    ∃ next, offset < next ∧ next ≤ lexemes.length ∧ rest = lexemes.drop next ∧
      HasSymbols [node] (lexemes.extract offset next) := by
  rcases hasSymbols_of_read h with ⟨front, hne, hdrop, hsymbols⟩
  have hlength := congrArg List.length hdrop
  rw [List.length_drop, List.length_append] at hlength
  have hpos := List.length_pos_iff.mpr hne
  refine ⟨offset + front.length, by omega, by omega, ?_, ?_⟩
  · rw [← List.drop_drop, hdrop, List.drop_left]
  · rw [List.extract_eq_take_drop, hdrop, Nat.add_sub_cancel_left, List.take_left]
    exact hsymbols

theorem readAt_eq_ok {node : Node} {next : Nat}
    (h : readAt finish lexemes rule offset = .ok (node, next)) :
    offset < next ∧ next ≤ lexemes.length ∧
      read finish rule (lexemes.drop offset) = .ok (node, lexemes.drop next) ∧
      HasSymbols [node] (lexemes.extract offset next) := by
  rcases map_eq_ok h with ⟨⟨tree, rest⟩, hread, heq⟩
  rcases exists_next_of_read hread with ⟨next', hlt, hle, rfl, hsymbols⟩
  rw [behind_drop hle] at heq
  cases heq
  exact ⟨hlt, hle, hread, hsymbols⟩

/-- The walk goes on where a rule ended. -/
theorem readAt_bind {α : Type} (after : Node × List Lexeme → Except QueryError α) :
    ((readAt finish lexemes rule offset).bind fun found => after (found.1, lexemes.drop found.2)) =
      (read finish rule (lexemes.drop offset)).bind after := by
  rw [readAt]
  cases hread : read finish rule (lexemes.drop offset) with
  | error error => rfl
  | ok found =>
      rcases found with ⟨node, rest⟩
      rcases exists_next_of_read hread with ⟨next, _, hle, rfl, _⟩
      rw [Except.map, behind_drop hle]
      rfl

theorem readAt_disjunction (offset : Nat) :
    readAt finish lexemes .disjunction offset =
      (operandsAt finish lexemes .disjunction offset).map fun found =>
        (Node.disjunction found.1, found.2) := by
  rw [readAt, operandsAt, read_disjunction]
  refine map_map_comm (fun found => ?_) _
  rfl

theorem readAt_conjunction (offset : Nat) :
    readAt finish lexemes .conjunction offset =
      (operandsAt finish lexemes .conjunction offset).map fun found =>
        (Node.conjunction found.1, found.2) := by
  rw [readAt, operandsAt, read_conjunction]
  refine map_map_comm (fun found => ?_) _
  rfl

theorem operandsAt_eq (rule : Rule) (offset : Nat) :
    operandsAt finish lexemes rule offset =
      (readAt finish lexemes rule.operand offset).bind fun first =>
        (othersAt finish lexemes rule first.2).map fun others =>
          (first.1 :: others.1, others.2) := by
  rw [operandsAt, readOperands]
  refine Eq.trans ?_ (readAt_bind fun found =>
    ((readOthers finish rule found.2).map (behind lexemes)).map fun others =>
      (found.1 :: others.1, others.2)).symm
  cases read finish rule.operand (lexemes.drop offset) with
  | error error => rfl
  | ok first =>
      simp only [bind, Except.bind]
      cases readOthers finish rule first.2 <;> rfl

theorem readAt_not (h : symbolAt? lexemes offset = some (.operator .not)) :
    readAt finish lexemes .negation offset =
      (readAt finish lexemes .negation (offset + 1)).map fun child => (.not child.1, child.2) := by
  rcases drop_eq_cons_of_symbolAt? h with ⟨position, hdrop⟩
  rw [readAt, readAt, hdrop, read_not]
  refine map_map_comm (fun found => ?_) _
  rfl

theorem readAt_negation_of_ne_not (h : symbolAt? lexemes offset ≠ some (.operator .not)) :
    readAt finish lexemes .negation offset = readAt finish lexemes .group offset := by
  rw [readAt, readAt, read_negation_of_ne_not]
  intro rest hrest
  rw [symbolAt?_eq_head?, ← List.head?_map, hrest] at h
  exact h rfl

theorem readAt_opening (h : symbolAt? lexemes offset = some .opening) :
    readAt finish lexemes .group offset =
      (readAt finish lexemes .disjunction (offset + 1)).bind fun inner =>
        if symbolAt? lexemes inner.2 = some .closing then .ok (inner.1, inner.2 + 1)
        else .error (unexpected finish (lexemes.drop inner.2)) := by
  rcases drop_eq_cons_of_symbolAt? h with ⟨position, hdrop⟩
  rw [← funext map_behind_closed,
    readAt_bind fun inner => (closed finish inner).map (behind lexemes), readAt, hdrop,
    read_opening]
  cases read finish .disjunction (lexemes.drop (offset + 1)) <;> rfl

theorem readAt_phrase {words : List Text} (h : symbolAt? lexemes offset = some (.phrase words)) :
    readAt finish lexemes .group offset = .ok (.phrase words, offset + 1) := by
  rcases drop_eq_cons_of_symbolAt? h with ⟨position, hdrop⟩
  rw [readAt, hdrop, read_phrase, Except.map, behind_drop (lt_length_of_symbolAt? h)]

theorem readAt_word {text : Text} (h : symbolAt? lexemes offset = some (.word text)) :
    readAt finish lexemes .group offset =
      (Term.ofText text).map fun term => (.word term, offset + 1) := by
  rcases drop_eq_cons_of_symbolAt? h with ⟨position, hdrop⟩
  rw [readAt, hdrop, read_word]
  cases Term.ofText text with
  | error error => rfl
  | ok term => rw [Except.map, Except.map, behind_drop (lt_length_of_symbolAt? h)]; rfl

theorem readAt_group_of_end (h : symbolAt? lexemes offset = none) :
    readAt finish lexemes .group offset = .error (unexpected finish (lexemes.drop offset)) := by
  rw [symbolAt?_eq_head?, Option.map_eq_none_iff, List.head?_eq_none_iff] at h
  rw [readAt, h, read_group_nil]
  rfl

theorem readAt_group_of_not_isLeaf {symbol : Symbol}
    (h : symbolAt? lexemes offset = some symbol) (hopening : symbol ≠ .opening)
    (hleaf : symbol.isLeaf = false) :
    readAt finish lexemes .group offset = .error (unexpected finish (lexemes.drop offset)) := by
  rcases drop_eq_cons_of_symbolAt? h with ⟨position, hdrop⟩
  rw [readAt, hdrop, read_group_of_not_isLeaf symbol hopening hleaf]
  rfl

theorem readOthers_of_gap?_eq_none
    (h : ∀ symbol, (lexemes.map Lexeme.symbol).head? = some symbol → rule.gap? symbol = none) :
    readOthers finish rule lexemes = .ok ([], lexemes) := by
  cases rule with
  | disjunction =>
      apply readOthers_disjunction_of_ne_or
      intro rest hrest
      have hgap := h (.operator .or) (by rw [hrest]; rfl)
      cases hgap
  | conjunction =>
      apply readOthers_of_stops
      intro symbol hsymbol
      have hgap := h symbol hsymbol
      rw [Rule.gap?] at hgap
      split at hgap
      · cases hgap
      · split at hgap
        · next hstops => exact hstops
        · cases hgap
  | negation => rfl
  | group => rfl

theorem readOthers_of_gap?_eq_some {symbol : Symbol} {gap : Nat} (h : rule.gap? symbol = some gap)
    (position : Nat) (rest : List Lexeme) :
    readOthers finish rule (⟨symbol, position⟩ :: rest) =
      readOperands finish rule ((⟨symbol, position⟩ :: rest).drop gap) := by
  cases rule with
  | disjunction =>
      rw [Rule.gap?] at h
      split at h
      · next hor =>
          subst hor
          cases h
          exact readOthers_or finish position rest
      · cases h
  | conjunction =>
      rw [Rule.gap?] at h
      split at h
      · next hand =>
          subst hand
          cases h
          exact readOthers_and finish position rest
      · next hand =>
          split at h
          · cases h
          · next hstops =>
              cases h
              have hgoes : ¬ Rule.conjunction.Stops [symbol] := mt Rule.stops_cons.mp hstops
              rcases Rule.exists_cons_of_not_stops hgoes with ⟨_, _, heq, hcase⟩
              cases heq
              exact readOthers_beside finish rest (hcase.resolve_left hand)
  | negation => cases h
  | group => cases h

theorem othersAt_of_gap?_eq_none (hle : offset ≤ lexemes.length)
    (h : (symbolAt? lexemes offset).bind rule.gap? = none) :
    othersAt finish lexemes rule offset = .ok ([], offset) := by
  rw [othersAt, readOthers_of_gap?_eq_none, Except.map, behind_drop hle]
  intro symbol hsymbol
  rw [List.head?_map, ← symbolAt?_eq_head?] at hsymbol
  rwa [hsymbol] at h

theorem othersAt_of_gap?_eq_some {symbol : Symbol} {gap : Nat}
    (hsymbol : symbolAt? lexemes offset = some symbol) (hgap : rule.gap? symbol = some gap) :
    othersAt finish lexemes rule offset = operandsAt finish lexemes rule (offset + gap) := by
  rcases drop_eq_cons_of_symbolAt? hsymbol with ⟨position, hdrop⟩
  rw [othersAt, operandsAt, hdrop, readOthers_of_gap?_eq_some hgap, ← hdrop, List.drop_drop]

end

/-!
## Walks that come to an end
-/

theorem run_bind_eq_some {α β : Type} {first : ExceptT QueryError Option α}
    {result : Except QueryError α} {next : α → ExceptT QueryError Option β}
    {after : α → Except QueryError β} (hfirst : first.run = some result)
    (hnext : ∀ value, result = .ok value → (next value).run = some (after value)) :
    (first >>= next).run = some (result.bind after) := by
  rw [ExceptT.run_bind, hfirst]
  cases result with
  | error error => rfl
  | ok value => exact hnext value rfl

theorem run_map_eq_some {α β : Type} {first : ExceptT QueryError Option α}
    {result : Except QueryError α} (hfirst : first.run = some result) (f : α → β) :
    (do let value ← first; return f value : ExceptT QueryError Option β).run =
      some (result.map f) := by
  rw [ExceptT.run_bind, hfirst]
  cases result <;> rfl

/--
The ranks of the calls.  A call has a lower rank than the one that it is made in, unless it is made
further on, and all ranks are below six.
-/
def Rule.readRank : Rule → Nat
  | .disjunction => 5
  | .conjunction => 3
  | .negation => 1
  | .group => 0

def Rule.operandsRank : Rule → Nat
  | .disjunction => 4
  | .conjunction => 2
  | .negation => 2
  | .group => 1

def Rule.othersRank : Rule → Nat
  | .disjunction => 0
  | .conjunction => 3
  | .negation => 0
  | .group => 0

theorem Rule.readRank_operand_lt (rule : Rule) : rule.operand.readRank < rule.operandsRank := by
  cases rule <;> decide

theorem Rule.operandsRank_lt_of_gap? {rule : Rule} {symbol : Symbol} {gap : Nat}
    (h : rule.gap? symbol = some gap) :
    gap ≤ 1 ∧ rule.operandsRank < 6 * gap + rule.othersRank := by
  cases rule with
  | disjunction =>
      rw [Rule.gap?] at h
      split at h <;> cases h
      decide
  | conjunction =>
      rw [Rule.gap?] at h
      split at h
      · cases h
        decide
      · split at h <;> cases h
        decide
  | negation => cases h
  | group => cases h

section

variable [PatternCompiler]

/-- The walk reads what the rules read, where the depth is enough for the lexemes ahead. -/
structure ReadsWithin (finish : Nat) (lexemes : List Lexeme) (depth : Nat) : Prop where
  read : ∀ rule offset, 6 * (lexemes.length - offset) + rule.readRank < depth →
    (readWithin finish lexemes depth rule offset).run = some (readAt finish lexemes rule offset)
  operands : ∀ rule offset, 6 * (lexemes.length - offset) + rule.operandsRank < depth →
    (operandsWithin finish lexemes depth rule offset).run =
      some (operandsAt finish lexemes rule offset)
  others : ∀ rule offset, offset ≤ lexemes.length →
    6 * (lexemes.length - offset) + rule.othersRank < depth →
      (othersWithin finish lexemes depth rule offset).run =
        some (othersAt finish lexemes rule offset)

variable {finish : Nat} {lexemes : List Lexeme} {rule : Rule} {offset depth : Nat}

theorem ReadsWithin.group_succ (h : ReadsWithin finish lexemes depth)
    (hdepth : 6 * (lexemes.length - offset) < depth + 1) :
    (readWithin finish lexemes (depth + 1) .group offset).run =
      some (readAt finish lexemes .group offset) := by
  rw [readWithin]
  cases hsymbol : symbolAt? lexemes offset with
  | none =>
      rw [readAt_group_of_end hsymbol]
      rfl
  | some symbol =>
      have hlt := lt_length_of_symbolAt? hsymbol
      cases symbol with
      | word text =>
          rw [readAt_word hsymbol]
          exact run_map_eq_some rfl _
      | phrase words =>
          rw [readAt_phrase hsymbol]
          rfl
      | opening =>
          rw [readAt_opening hsymbol]
          apply run_bind_eq_some
          · apply h.read
            rw [Rule.readRank]
            omega
          · intro inner _
            split <;> rfl
      | closing =>
          rw [readAt_group_of_not_isLeaf hsymbol nofun rfl]
          rfl
      | operator keyword =>
          rw [readAt_group_of_not_isLeaf hsymbol nofun rfl]
          rfl

theorem ReadsWithin.negation_succ (h : ReadsWithin finish lexemes depth)
    (hdepth : 6 * (lexemes.length - offset) + 1 < depth + 1) :
    (readWithin finish lexemes (depth + 1) .negation offset).run =
      some (readAt finish lexemes .negation offset) := by
  rw [readWithin]
  split
  · next hnot =>
      have hlt := lt_length_of_symbolAt? hnot
      rw [readAt_not hnot]
      apply run_map_eq_some
      apply h.read
      rw [Rule.readRank]
      omega
  · next hnot =>
      rw [readAt_negation_of_ne_not hnot]
      apply h.read
      rw [Rule.readRank]
      omega

theorem ReadsWithin.read_succ (h : ReadsWithin finish lexemes depth)
    (hdepth : 6 * (lexemes.length - offset) + rule.readRank < depth + 1) :
    (readWithin finish lexemes (depth + 1) rule offset).run =
      some (readAt finish lexemes rule offset) := by
  cases rule with
  | disjunction =>
      rw [Rule.readRank] at hdepth
      rw [readWithin, readAt_disjunction]
      apply run_map_eq_some
      apply h.operands
      rw [Rule.operandsRank]
      omega
  | conjunction =>
      rw [Rule.readRank] at hdepth
      rw [readWithin, readAt_conjunction]
      apply run_map_eq_some
      apply h.operands
      rw [Rule.operandsRank]
      omega
  | negation => exact h.negation_succ hdepth
  | group => exact h.group_succ hdepth

theorem ReadsWithin.operands_succ (h : ReadsWithin finish lexemes depth)
    (hdepth : 6 * (lexemes.length - offset) + rule.operandsRank < depth + 1) :
    (operandsWithin finish lexemes (depth + 1) rule offset).run =
      some (operandsAt finish lexemes rule offset) := by
  have hrank := rule.readRank_operand_lt
  rw [operandsWithin, operandsAt_eq]
  apply run_bind_eq_some
  · apply h.read
    omega
  · rintro ⟨node, next⟩ hfirst
    -- The first operand moves the walk on, so the others may begin with a call of any rank.
    rcases readAt_eq_ok hfirst with ⟨hlt, hle, _⟩
    have hothers : rule.othersRank < 6 + rule.operandsRank := by cases rule <;> decide
    apply run_map_eq_some
    apply h.others rule next hle
    omega

theorem ReadsWithin.others_succ (h : ReadsWithin finish lexemes depth)
    (hle : offset ≤ lexemes.length)
    (hdepth : 6 * (lexemes.length - offset) + rule.othersRank < depth + 1) :
    (othersWithin finish lexemes (depth + 1) rule offset).run =
      some (othersAt finish lexemes rule offset) := by
  rw [othersWithin]
  cases hgap : (symbolAt? lexemes offset).bind rule.gap? with
  | none =>
      rw [othersAt_of_gap?_eq_none hle hgap]
      rfl
  | some gap =>
      rcases Option.bind_eq_some_iff.mp hgap with ⟨symbol, hsymbol, hgap⟩
      rcases Rule.operandsRank_lt_of_gap? hgap with ⟨hone, hrank⟩
      have hlt := lt_length_of_symbolAt? hsymbol
      rw [othersAt_of_gap?_eq_some hsymbol hgap]
      apply h.operands
      omega

theorem readsWithin (finish : Nat) (lexemes : List Lexeme) (depth : Nat) :
    ReadsWithin finish lexemes depth := by
  induction depth with
  | zero =>
      exact ⟨fun _ _ h => absurd h (Nat.not_lt_zero _), fun _ _ h => absurd h (Nat.not_lt_zero _),
        fun _ _ _ h => absurd h (Nat.not_lt_zero _)⟩
  | succ depth ih =>
      exact ⟨fun _ _ => ih.read_succ, fun _ _ => ih.operands_succ, fun _ _ => ih.others_succ⟩

end

/--
Every rule comes to an end at every offset of any lexemes.  If it reads a tree there, it goes on
from the offset, stays within the lexemes, and puts into its tree exactly the words, phrases and
negations of the lexemes that it passes.
-/
theorem readAt_ends_and_conserves [PatternCompiler] (finish : Nat) (lexemes : List Lexeme)
    (rule : Rule) (offset : Nat) :
    (∀ depth, 6 * (lexemes.length - offset + 1) ≤ depth →
      (readWithin finish lexemes depth rule offset).run =
        some (readAt finish lexemes rule offset)) ∧
    ∀ node next, readAt finish lexemes rule offset = .ok (node, next) →
      offset < next ∧ next ≤ lexemes.length ∧
      read finish rule (lexemes.drop offset) = .ok (node, lexemes.drop next) ∧
      node.leaves = ((lexemes.extract offset next).map Lexeme.symbol).filter Symbol.isLeaf ∧
      node.nots = ((lexemes.extract offset next).map Lexeme.symbol).count (.operator .not) := by
  constructor
  · intro depth hdepth
    have hrank : rule.readRank < 6 := by cases rule <;> decide
    apply (readsWithin finish lexemes depth).read
    omega
  · intro node next h
    rcases readAt_eq_ok h with ⟨hlt, hle, hread, hsymbols⟩
    refine ⟨hlt, hle, hread, ?_, ?_⟩
    · rw [← hsymbols.leaves, List.flatMap_singleton]
    · rw [← hsymbols.nots, List.map_singleton, List.sum_singleton]

theorem readAt_ends_and_conserves_unbalanced :
    letI := PatternCompiler.unlimited
    let lexemes : List Lexeme := [⟨.closing, 0⟩, ⟨.operator .not, 2⟩, ⟨.opening, 6⟩,
      ⟨.word ['a'], 7⟩, ⟨.operator .or, 9⟩, ⟨.phrase [['b']], 12⟩, ⟨.closing, 15⟩,
      ⟨.word ['c'], 17⟩, ⟨.closing, 18⟩]
    let node : Node := .and [.not (.or [.word ⟨['a']⟩, .phrase [['b']]]), .word ⟨['c']⟩]
    readAt 19 lexemes .conjunction 1 = .ok (node, 8) ∧ 6 * (lexemes.length - 1 + 1) ≤ 54 ∧
      (readWithin 19 lexemes 54 .conjunction 1).run = some (.ok (node, 8)) ∧
      8 ≤ lexemes.length ∧
      read 19 .conjunction (lexemes.drop 1) = .ok (node, lexemes.drop 8) ∧
      node.leaves = [.word ['a'], .phrase [['b']], .word ['c']] ∧ node.nots = 1 := by
  intro lexemes node
  let _ := PatternCompiler.unlimited
  have h : readAt 19 lexemes .conjunction 1 = .ok (node, 8) := by cbv
  have hdepth : 6 * (lexemes.length - 1 + 1) ≤ 54 := by decide
  rcases readAt_ends_and_conserves 19 lexemes .conjunction 1 with ⟨hends, hconserves⟩
  rcases hconserves node 8 h with ⟨_, hle, hread, hleaves, hnots⟩
  exact ⟨h, hdepth, h ▸ hends 54 hdepth, hle, hread, hleaves, hnots⟩

end Grammar
end PaperFilter
