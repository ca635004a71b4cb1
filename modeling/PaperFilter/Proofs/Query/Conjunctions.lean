import PaperFilter.Proofs.Query.Compiling
import PaperFilter.Proofs.Query.Reading
import PaperFilter.Proofs.Query.WellFormed

/-!
# Conjunctions with and without `and`

Operands that stand beside each other are combined as if `and` stood between them.  A derivation
that loses some of its `and`s is a derivation again, which puts the same trees side by side and
nests no deeper.  So in a query that the check accepts every `and` can be left out, and one can be
put in wherever an operand ends and the next one starts.
-/

namespace PaperFilter
namespace Grammar

open Structure

/-!
## Symbols with fewer and with more `and`s
-/

/-- In the second sequence some of the `and`s of the first are left out. -/
inductive LeavesOutAnds : List Symbol → List Symbol → Prop where
  | nil : LeavesOutAnds [] []
  | keep (symbol : Symbol) {symbols shorter : List Symbol} :
      LeavesOutAnds symbols shorter → LeavesOutAnds (symbol :: symbols) (symbol :: shorter)
  | leaveOut {symbols shorter : List Symbol} :
      LeavesOutAnds symbols shorter → LeavesOutAnds (.operator .and :: symbols) shorter

/-- In the second sequence an `and` is put in at some of the places of the first where an operand
ends and the next one starts. -/
inductive PutsInAnds : List Symbol → List Symbol → Prop where
  | nil : PutsInAnds [] []
  | keep (symbol : Symbol) {symbols longer : List Symbol} :
      PutsInAnds symbols longer → PutsInAnds (symbol :: symbols) (symbol :: longer)
  | putIn {left right : Symbol} {symbols longer : List Symbol} :
      endsOperand left = true → startsOperand right = true →
        PutsInAnds (right :: symbols) longer →
          PutsInAnds (left :: right :: symbols) (left :: .operator .and :: longer)

theorem LeavesOutAnds.of_append {front rest shorter : List Symbol}
    (h : LeavesOutAnds (front ++ rest) shorter) :
    ∃ first second, shorter = first ++ second ∧ LeavesOutAnds front first ∧
      LeavesOutAnds rest second := by
  induction front generalizing shorter with
  | nil => exact ⟨[], shorter, rfl, .nil, h⟩
  | cons symbol front ih =>
      rw [List.cons_append] at h
      cases h with
      | keep _ hrest =>
          rcases ih hrest with ⟨first, second, rfl, hfirst, hsecond⟩
          exact ⟨symbol :: first, second, rfl, .keep symbol hfirst, hsecond⟩
      | leaveOut hrest =>
          rcases ih hrest with ⟨first, second, rfl, hfirst, hsecond⟩
          exact ⟨first, second, rfl, .leaveOut hfirst, hsecond⟩

theorem LeavesOutAnds.of_cons {symbol : Symbol} {rest shorter : List Symbol}
    (h : LeavesOutAnds (symbol :: rest) shorter) (hsymbol : symbol ≠ .operator .and) :
    ∃ others, shorter = symbol :: others ∧ LeavesOutAnds rest others := by
  cases h with
  | keep _ hrest => exact ⟨_, rfl, hrest⟩
  | leaveOut _ => exact absurd rfl hsymbol

theorem PutsInAnds.leavesOutAnds {symbols longer : List Symbol} (h : PutsInAnds symbols longer) :
    LeavesOutAnds longer symbols := by
  induction h with
  | nil => exact .nil
  | keep symbol _ ih => exact .keep symbol ih
  | putIn _ _ _ ih => exact .keep _ (.leaveOut ih)

/-!
## Derivations that lose `and`s
-/

namespace Derivation

variable [PatternCompiler] {rule : Rule}

/-- The second derivation puts the same trees side by side and nests no deeper. -/
structure IsReplacedBy (derivation other : Derivation rule) : Prop where
  operands : other.operands = derivation.operands
  nests : ∀ {limit opened : Int} {nots : Nat},
    NestsWithin limit opened nots derivation.symbols →
      NestsWithin limit opened nots other.symbols

theorem isReplacedBy_or {first first' : Derivation .conjunction}
    {others others' : Derivation .disjunction} (hfirst : first.IsReplacedBy first')
    (hothers : others.IsReplacedBy others') :
    (or first others).IsReplacedBy (or first' others') where
  operands := by rw [operands_or, operands_or, hfirst.operands, hothers.operands]
  nests := by
    intro limit opened nots h
    rw [symbols_or, nestsWithin_symbols_append_operator _ (by decide)] at h ⊢
    exact ⟨hfirst.nests h.left, hothers.nests h.right⟩

theorem isReplacedBy_and {first first' : Derivation .negation}
    {others others' : Derivation .conjunction} (hfirst : first.IsReplacedBy first')
    (hothers : others.IsReplacedBy others') :
    (and first others).IsReplacedBy (and first' others') where
  operands := by rw [operands_and, operands_and, hfirst.operands, hothers.operands]
  nests := by
    intro limit opened nots h
    rw [symbols_and, nestsWithin_symbols_append_operator _ (by decide)] at h ⊢
    exact ⟨hfirst.nests h.left, hothers.nests h.right⟩

theorem isReplacedBy_beside {first first' : Derivation .negation}
    {others others' : Derivation .conjunction} (hfirst : first.IsReplacedBy first')
    (hothers : others.IsReplacedBy others') :
    (beside first others).IsReplacedBy (beside first' others') where
  operands := (isReplacedBy_and hfirst hothers).operands
  nests := by
    intro limit opened nots h
    rw [symbols_beside, nestsWithin_symbols_append] at h ⊢
    exact ⟨hfirst.nests h.left, hothers.nests h.right⟩

/-- An `and` nests nothing and combines what stands beside it. -/
theorem isReplacedBy_beside_of_and (first : Derivation .negation)
    (others : Derivation .conjunction) : (and first others).IsReplacedBy (beside first others) where
  operands := operands_beside
  nests := by
    intro limit opened nots h
    rw [symbols_and, nestsWithin_symbols_append_operator _ (by decide)] at h
    rwa [symbols_beside, nestsWithin_symbols_append]

theorem IsReplacedBy.trans {first second third : Derivation rule}
    (h : first.IsReplacedBy second) (h' : second.IsReplacedBy third) :
    first.IsReplacedBy third where
  operands := h'.operands.trans h.operands
  nests := fun hnests => h'.nests (h.nests hnests)

theorem isReplacedBy_not {negated negated' : Derivation .negation}
    (h : negated.IsReplacedBy negated') : (not negated).IsReplacedBy (not negated') where
  operands := by rw [operands_not, operands_not, h.operands]
  nests := fun hnests => ⟨hnests.left, h.nests hnests.right⟩

theorem isReplacedBy_parentheses {inner inner' : Derivation .disjunction}
    (h : inner.IsReplacedBy inner') :
    (parentheses inner).IsReplacedBy (parentheses inner') where
  operands := by rw [operands_parentheses, operands_parentheses, h.operands]
  nests := by
    intro limit opened nots hnests
    rw [nestsWithin_parentheses] at hnests ⊢
    exact h.nests hnests

/-- What is left of the symbols of a derivation is spelled by one that replaces it. -/
theorem exists_isReplacedBy (derivation : Derivation rule) {shorter : List Symbol}
    (h : LeavesOutAnds derivation.symbols shorter) :
    ∃ other : Derivation rule, other.symbols = shorter ∧ derivation.IsReplacedBy other := by
  induction derivation generalizing shorter with
  | conjunction only ih =>
      rcases ih h with ⟨other, rfl, hother⟩
      exact ⟨conjunction other, rfl,
        by rw [operands_conjunction, operands_conjunction, hother.operands], hother.nests⟩
  | or first others ihFirst ihOthers =>
      rcases LeavesOutAnds.of_append h with ⟨front, back, rfl, hfront, hback⟩
      rcases hback.of_cons (by decide) with ⟨rest, rfl, hrest⟩
      rcases ihFirst hfront with ⟨first', rfl, hfirst⟩
      rcases ihOthers hrest with ⟨others', rfl, hothers⟩
      exact ⟨or first' others', rfl, isReplacedBy_or hfirst hothers⟩
  | negation only ih =>
      rcases ih h with ⟨other, rfl, hother⟩
      exact ⟨negation other, rfl, hother.operands, hother.nests⟩
  | and first others ihFirst ihOthers =>
      rcases LeavesOutAnds.of_append h with ⟨front, back, rfl, hfront, hback⟩
      rcases ihFirst hfront with ⟨first', rfl, hfirst⟩
      -- The `and` itself may be among those that are left out.
      cases hback with
      | keep _ hrest =>
          rcases ihOthers hrest with ⟨others', rfl, hothers⟩
          exact ⟨and first' others', rfl, isReplacedBy_and hfirst hothers⟩
      | leaveOut hrest =>
          rcases ihOthers hrest with ⟨others', rfl, hothers⟩
          exact ⟨beside first' others', rfl,
            (isReplacedBy_beside_of_and first others).trans (isReplacedBy_beside hfirst hothers)⟩
  | beside first others ihFirst ihOthers =>
      rcases LeavesOutAnds.of_append h with ⟨front, back, rfl, hfront, hback⟩
      rcases ihFirst hfront with ⟨first', rfl, hfirst⟩
      rcases ihOthers hback with ⟨others', rfl, hothers⟩
      exact ⟨beside first' others', rfl, isReplacedBy_beside hfirst hothers⟩
  | not negated ih =>
      rcases LeavesOutAnds.of_cons h (by decide) with ⟨rest, rfl, hrest⟩
      rcases ih hrest with ⟨negated', rfl, hnegated⟩
      exact ⟨not negated', rfl, isReplacedBy_not hnegated⟩
  | group only ih =>
      rcases ih h with ⟨other, rfl, hother⟩
      exact ⟨group other, rfl, hother.operands, hother.nests⟩
  | parentheses inner ih =>
      rcases LeavesOutAnds.of_cons h (by decide) with ⟨rest, rfl, hrest⟩
      rcases hrest.of_append with ⟨front, back, rfl, hfront, hback⟩
      rcases hback.of_cons (by decide) with ⟨empty, rfl, hempty⟩
      rcases ih hfront with ⟨inner', rfl, hinner⟩
      cases hempty
      exact ⟨parentheses inner', rfl, isReplacedBy_parentheses hinner⟩
  | phrase words =>
      rcases LeavesOutAnds.of_cons h Symbol.noConfusion with ⟨rest, rfl, hrest⟩
      cases hrest
      exact ⟨phrase words, rfl, rfl, id⟩
  | word text =>
      rcases LeavesOutAnds.of_cons h Symbol.noConfusion with ⟨rest, rfl, hrest⟩
      cases hrest
      exact ⟨word text, rfl, rfl, id⟩

end Derivation

/-!
## What the check says of more `and`s
-/

section

variable {symbols longer : List Symbol}

theorem PutsInAnds.head?_eq (h : PutsInAnds symbols longer) : longer.head? = symbols.head? := by
  cases h <;> rfl

theorem PutsInAnds.linked (h : PutsInAnds symbols longer) {ended : Bool}
    (hlinked : Linked ended symbols) : Linked ended longer := by
  induction h generalizing ended with
  | nil => exact hlinked
  | keep symbol _ ih => exact ⟨hlinked.left, ih hlinked.right⟩
  | @putIn left right symbols longer hends hstarts hrest ih =>
      have hbehind : Linked true longer := hends ▸ ih hlinked.right
      rcases List.head?_eq_some_iff.mp hrest.head?_eq with ⟨more, rfl⟩
      exact ⟨hlinked.left, Or.inl hends, hbehind.of_starts hstarts⟩

theorem PutsInAnds.closes (h : PutsInAnds symbols longer) {opened : Int}
    (hcloses : Closes opened symbols) : Closes opened longer := by
  induction h generalizing opened with
  | nil => exact hcloses
  | keep symbol _ ih => exact ⟨hcloses.left, ih hcloses.right⟩
  | @putIn left right symbols longer _ _ _ ih =>
      have hrest : Closes (opened + rise left + rise (.operator .and)) longer := by
        rw [rise.eq_def (.operator .and), Int.add_zero]
        exact ih hcloses.right
      refine ⟨hcloses.left, ?_, hrest⟩
      rw [rise.eq_def (.operator .and), Int.add_zero]
      exact hcloses.left

/-- Behind the end of an operand there is no run of `not`s that an `and` could break. -/
theorem PutsInAnds.nestsWithin (h : PutsInAnds symbols longer) {limit opened : Int} {nots : Nat}
    (hnests : NestsWithin limit opened nots symbols) : NestsWithin limit opened nots longer := by
  induction h generalizing opened nots with
  | nil => exact hnests
  | keep symbol _ ih => exact ⟨hnests.left, ih hnests.right⟩
  | @putIn left right symbols longer hends _ _ ih =>
      have hnots : notsBehind nots left = 0 := by
        rw [notsBehind, if_neg]
        rintro rfl
        cases hends
      have hopened : opened + rise left + rise (.operator .and) = opened + rise left :=
        Int.add_zero _
      have hand : ∀ count, notsBehind count (.operator .and) = 0 := fun _ => rfl
      rcases hnests with ⟨hhere, hrest⟩
      rw [hnots] at hhere hrest
      rw [NestsWithin, NestsWithin, hnots, hopened, hand]
      exact ⟨hhere, hhere, ih hrest⟩

end

theorem check_of_putsInAnds {lexemes longer : List Lexeme}
    (h : PutsInAnds (lexemes.map Lexeme.symbol) (longer.map Lexeme.symbol))
    (hcheck : check lexemes = .ok ()) : check longer = .ok () := by
  rcases (check_eq_ok_iff lexemes).mp hcheck with ⟨hlinked, hcloses, hnesting⟩
  refine (check_eq_ok_iff longer).mpr ⟨h.linked hlinked, h.closes hcloses, ?_⟩
  rw [← nestsWithin_iff (by decide)] at hnesting ⊢
  exact h.nestsWithin hnesting

/-- Without some of its `and`s an accepted query is accepted, and its tree is the same. -/
theorem check_and_tree_of_leavesOutAnds [PatternCompiler] {lexemes shorter : List Lexeme}
    (h : LeavesOutAnds (lexemes.map Lexeme.symbol) (shorter.map Lexeme.symbol))
    (hcheck : check lexemes = .ok ()) :
    check shorter = .ok () ∧
      ∀ finish finish', tree finish' shorter = tree finish lexemes := by
  rcases (check_eq_ok_iff_derivation lexemes).mp hcheck with ⟨⟨derivation, hsymbols⟩, hnesting⟩
  rw [← hsymbols] at h hnesting
  rcases derivation.exists_isReplacedBy h with ⟨other, hother, hreplaced⟩
  rw [← nestsWithin_iff (by decide)] at hnesting
  constructor
  · refine (check_eq_ok_iff_derivation shorter).mpr ⟨⟨other, hother⟩, ?_⟩
    rw [← hother, ← nestsWithin_iff (by decide)]
    exact hreplaced.nests hnesting
  · intro finish finish'
    rw [tree_eq finish' hother, tree_eq finish hsymbols, Derivation.tree, Derivation.tree,
      hreplaced.operands]

/--
In a query that the check accepts, `and` says nothing.  Whichever of its `and`s are left out, and
wherever between the end of an operand and the start of the next one others are put in, the check
accepts what comes out, and it has the same tree or is refused for the same word.
-/
theorem tree_eq_without_ands [PatternCompiler] {lexemes : List Lexeme}
    (h : check lexemes = .ok ()) :
    (∀ shorter : List Lexeme,
      LeavesOutAnds (lexemes.map Lexeme.symbol) (shorter.map Lexeme.symbol) →
        check shorter = .ok () ∧
          ∀ finish finish', tree finish' shorter = tree finish lexemes) ∧
    ∀ longer : List Lexeme,
      PutsInAnds (lexemes.map Lexeme.symbol) (longer.map Lexeme.symbol) →
        check longer = .ok () ∧
          ∀ finish finish', tree finish' longer = tree finish lexemes := by
  constructor
  · intro shorter hshorter
    exact check_and_tree_of_leavesOutAnds hshorter h
  · intro longer hlonger
    have hcheck := check_of_putsInAnds hlonger h
    refine ⟨hcheck, ?_⟩
    intro finish finish'
    exact ((check_and_tree_of_leavesOutAnds hlonger.leavesOutAnds hcheck).right finish'
      finish).symm

/-- From `a and (b and not "c") d` the two `and`s are left out, or a third one is put in. -/
theorem tree_eq_without_ands_nested :
    letI := PatternCompiler.unlimited
    let lexemes : List Lexeme := [⟨.word ['a'], 0⟩, ⟨.operator .and, 2⟩, ⟨.opening, 6⟩,
      ⟨.word ['b'], 7⟩, ⟨.operator .and, 9⟩, ⟨.operator .not, 13⟩, ⟨.phrase [['c']], 17⟩,
      ⟨.closing, 20⟩, ⟨.word ['d'], 22⟩]
    let shorter : List Lexeme := [⟨.word ['a'], 0⟩, ⟨.opening, 2⟩, ⟨.word ['b'], 3⟩,
      ⟨.operator .not, 5⟩, ⟨.phrase [['c']], 9⟩, ⟨.closing, 12⟩, ⟨.word ['d'], 14⟩]
    let longer : List Lexeme := [⟨.word ['a'], 0⟩, ⟨.operator .and, 2⟩, ⟨.opening, 6⟩,
      ⟨.word ['b'], 7⟩, ⟨.operator .and, 9⟩, ⟨.operator .not, 13⟩, ⟨.phrase [['c']], 17⟩,
      ⟨.closing, 20⟩, ⟨.operator .and, 22⟩, ⟨.word ['d'], 26⟩]
    check lexemes = .ok () ∧
      (check shorter = .ok () ∧ tree 15 shorter = tree 23 lexemes) ∧
      (check longer = .ok () ∧ tree 27 longer = tree 23 lexemes) := by
  intro lexemes shorter longer
  have hcheck : check lexemes = .ok () := rfl
  rcases @tree_eq_without_ands .unlimited _ hcheck with ⟨hfewer, hmore⟩
  have hshorter : LeavesOutAnds (lexemes.map Lexeme.symbol) (shorter.map Lexeme.symbol) :=
    .keep _ (.leaveOut (.keep _ (.keep _ (.leaveOut (.keep _ (.keep _ (.keep _ (.keep _ .nil))))))))
  have hlonger : PutsInAnds (lexemes.map Lexeme.symbol) (longer.map Lexeme.symbol) :=
    .keep _ (.keep _ (.keep _ (.keep _ (.keep _ (.keep _ (.keep _ (.putIn rfl rfl
      (.keep _ .nil))))))))
  refine ⟨hcheck, ?_, ?_⟩
  · rcases hfewer shorter hshorter with ⟨haccepted, htree⟩
    exact ⟨haccepted, htree 23 15⟩
  · rcases hmore longer hlonger with ⟨haccepted, htree⟩
    exact ⟨haccepted, htree 23 27⟩

end Grammar
end PaperFilter
