import Mathlib
import PaperFilter.Proofs.Query.Rendering

/-!
# The nesting of a rendered tree

Rendering writes parentheses around groups, which a query need not do, and leaves out all others,
which may join `not`s that parentheses kept apart.  The first makes it nest deeper by the groups in
each other; the second matters only where a query negates a group twice in a row.
-/

namespace PaperFilter

open Structure

namespace Node

/-!
## The nesting of a rendered tree
-/

mutual

/-- How many groups of a tree stand in each other at most. -/
def groupDepth : Node → Nat
  | .and children => 1 + deepest children
  | .or children => 1 + deepest children
  | .not child => groupDepth child
  | .phrase _ => 0
  | .word _ => 0

def deepest : List Node → Nat
  | [] => 0
  | child :: rest => max (groupDepth child) (deepest rest)

end

theorem groupDepth_node (kind : Kind) (children : List Node) :
    (kind.node children).groupDepth = 1 + deepest children := by
  cases kind <;> rw [Kind.node, groupDepth]

theorem deepest_le_iff {children : List Node} {depth : Nat} :
    deepest children ≤ depth ↔ ∀ child ∈ children, child.groupDepth ≤ depth := by
  induction children with
  | nil => simp [deepest]
  | cons child rest ih => rw [deepest, Nat.max_le, ih, List.forall_mem_cons]

theorem groupDepth_le_deepest {children : List Node} {child : Node} (h : child ∈ children) :
    child.groupDepth ≤ deepest children :=
  deepest_le_iff.mp (Nat.le_refl _) child h

/-- The rendering of a tree keeps within a limit behind so many open parentheses and `not`s. -/
def RendersWithin (limit opened : Int) (nots : Nat) (node : Node) : Prop :=
  NestsWithin limit opened nots node.derivation.symbols

theorem rendersWithin_node_iff {limit opened : Int} {nots : Nat} {kind : Kind}
    {children : List Node} :
    RendersWithin limit opened nots (kind.node children) ↔
      opened + 1 ≤ limit ∧ ∀ child ∈ children, RendersWithin limit (opened + 1) 0 child := by
  rw [RendersWithin, derivation_node]
  cases children with
  | nil =>
      rw [List.map_nil, Grammar.enclosed, Grammar.Derivation.symbols_group,
        Grammar.Derivation.nestsWithin_parentheses]
      simp [NestsWithin, rise, notsBehind]
  | cons first others =>
      rw [List.map_cons, Grammar.enclosed, Grammar.Derivation.symbols_group,
        Grammar.Derivation.nestsWithin_parentheses, Grammar.nestsWithin_joined,
        List.forall_mem_cons, List.forall_mem_map]
      constructor
      · intro hchildren
        exact ⟨Grammar.Derivation.le_of_nestsWithin_symbols hchildren.left, hchildren⟩
      · intro h
        exact h.right

theorem rendersWithin_not_iff {limit opened : Int} {nots : Nat} {child : Node} :
    RendersWithin limit opened nots (.not child) ↔
      opened + (nots + 1 : Nat) ≤ limit ∧ RendersWithin limit opened (nots + 1) child := by
  have hnots : notsBehind nots (.operator .not) = nots + 1 := rfl
  rw [RendersWithin, derivation, Grammar.Derivation.symbols_not, NestsWithin, rise, hnots,
    Int.add_zero]
  rfl

theorem RendersWithin.withoutNots {limit opened : Int} {nots : Nat} {node : Node}
    (h : RendersWithin limit opened nots node) : RendersWithin limit opened 0 node := by
  apply NestsWithin.mono h
  · omega
  · omega

theorem rendersWithin_join (kind : Kind) {limit opened : Int} {children : List Node}
    (hopened : opened ≤ limit)
    (h : ∀ child ∈ children, RendersWithin (limit + child.groupDepth) opened 0 child) :
    RendersWithin (limit + (kind.join children).groupDepth) opened 0 (kind.join children) := by
  have hparts : ∀ part ∈ children.flatMap kind.parts,
      RendersWithin (limit + (1 + deepest (children.flatMap kind.parts))) (opened + 1) 0 part := by
    intro part hpart
    rcases List.mem_flatMap.mp hpart with ⟨child, hchild, hmem⟩
    have hwithin := h child hchild
    by_cases hgroup : ∃ inner, child = kind.node inner
    · rcases hgroup with ⟨inner, rfl⟩
      rw [Kind.parts_node] at hmem
      have hinner : deepest inner ≤ deepest (children.flatMap kind.parts) := by
        rw [deepest_le_iff]
        intro other hother
        apply groupDepth_le_deepest
        rw [List.mem_flatMap]
        refine ⟨kind.node inner, hchild, ?_⟩
        rwa [Kind.parts_node]
      rw [rendersWithin_node_iff, groupDepth_node] at hwithin
      apply NestsWithin.mono (hwithin.right part hmem)
      · omega
      · omega
    · rw [Kind.parts_of_ne fun inner hnode => hgroup ⟨inner, hnode⟩, List.mem_singleton] at hmem
      subst hmem
      have hdeepest := groupDepth_le_deepest hpart
      apply NestsWithin.mono hwithin
      · omega
      · omega
  by_cases honly : ∃ only, children.flatMap kind.parts = [only]
  · rcases honly with ⟨only, honly⟩
    have hdeepest : deepest [only] = only.groupDepth := Nat.max_zero _
    rw [honly, hdeepest] at hparts
    rw [Kind.join_eq_of_parts honly]
    apply NestsWithin.mono (hparts only List.mem_cons_self)
    · omega
    · omega
  · rw [Kind.join_eq_node fun only hcontra => honly ⟨only, hcontra⟩, rendersWithin_node_iff,
      groupDepth_node]
    constructor
    · omega
    · exact_mod_cast hparts

end Node

namespace Grammar

open Node (RendersWithin rendersWithin_join rendersWithin_not_iff)

/-- Two `not`s stand directly in front of an opening parenthesis. -/
def NegatesGroupTwice (symbols : List Symbol) : Prop :=
  [.operator .not, .operator .not, .opening] <:+: symbols

instance (symbols : List Symbol) : Decidable (NegatesGroupTwice symbols) :=
  inferInstanceAs (Decidable (_ <:+: symbols))

theorem NegatesGroupTwice.mono {symbols others : List Symbol} (h : NegatesGroupTwice symbols)
    (hinside : symbols <:+: others) : NegatesGroupTwice others :=
  h.trans hinside

/-- The `not`s in front of a rule that stand in front of each of its operands. -/
def Rule.notsBefore (nots : Nat) : Rule → Nat
  | .disjunction => 0
  | .conjunction => 0
  | .negation => nots
  | .group => nots

theorem front_inside (before front rest : List Symbol) :
    before ++ front <:+: before ++ (front ++ rest) := by
  rw [← List.append_assoc]
  exact (List.prefix_append _ rest).isInfix

theorem behind_inside (before front between rest : List Symbol) :
    rest <:+: before ++ (front ++ (between ++ rest)) := by
  rw [← List.append_assoc, ← List.append_assoc]
  exact (List.suffix_append _ rest).isInfix

theorem rendersWithin_group (kind : Node.Kind) {limit opened : Int} {plains : List Node}
    (hopened : opened ≤ limit)
    (h : ∀ plain ∈ plains, RendersWithin (limit + plain.normal.groupDepth) opened 0 plain.normal) :
    RendersWithin (limit + (kind.node plains).normal.groupDepth) opened 0
      (kind.node plains).normal := by
  rw [Node.normal_node]
  apply rendersWithin_join kind hopened
  intro child hchild
  rcases List.mem_map.mp hchild with ⟨plain, hplain, rfl⟩
  exact h plain hplain

section

variable [PatternCompiler]

/--
Where no group is negated twice in a row, the trees of a derivation render within the limit that the
derivation keeps, raised by the groups in them.
-/
theorem rendersWithin_operands {rule : Rule} {derivation : Derivation rule} {limit opened : Int}
    {nots : Nat} {plains : List Node} (hwithin : NestsWithin limit opened nots derivation.symbols)
    (hnots : ¬ NegatesGroupTwice (List.replicate nots (.operator .not) ++ derivation.symbols))
    (h : derivation.operands = .ok plains) :
    ∀ plain ∈ plains,
      RendersWithin (limit + plain.normal.groupDepth) opened (rule.notsBefore nots)
        plain.normal := by
  have hopened := Derivation.le_of_nestsWithin_symbols hwithin
  induction derivation generalizing opened nots plains with
  | conjunction only ih =>
      rcases Derivation.operands_conjunction_eq_ok h with ⟨conjuncts, hconjuncts, rfl⟩
      exact List.forall_mem_singleton.mpr
        (rendersWithin_group .and hopened (ih hwithin hnots hconjuncts hopened))
  | or first others ihFirst ihOthers =>
      rcases Derivation.operands_or_eq_ok h with
        ⟨conjuncts, disjuncts, hconjuncts, hdisjuncts, rfl⟩
      rw [Derivation.symbols_or, first.nestsWithin_symbols_append_operator (by decide)] at hwithin
      have hfirst := ihFirst hwithin.left
        (fun hcontra => hnots (hcontra.mono (front_inside _ _ _))) hconjuncts hopened
      have hothers := ihOthers hwithin.right
        (fun hcontra => hnots (hcontra.mono (behind_inside _ _ [.operator .or] _)))
        hdisjuncts hopened
      exact List.forall_mem_cons.mpr ⟨rendersWithin_group .and hopened hfirst, hothers⟩
  | negation only ih =>
      intro plain hplain
      exact (ih hwithin hnots h hopened plain hplain).withoutNots
  | and first others ihFirst ihOthers =>
      rcases Derivation.operands_and_eq_ok h with
        ⟨negation, negations, hnegation, hnegations, rfl⟩
      rw [Derivation.symbols_and, first.nestsWithin_symbols_append_operator (by decide)] at hwithin
      have hfirst := ihFirst hwithin.left
        (fun hcontra => hnots (hcontra.mono (front_inside _ _ _))) hnegation hopened
      have hothers := ihOthers hwithin.right
        (fun hcontra => hnots (hcontra.mono (behind_inside _ _ [.operator .and] _)))
        hnegations hopened
      exact List.forall_mem_append.mpr ⟨fun plain hplain => (hfirst plain hplain).withoutNots,
        hothers⟩
  | beside first others ihFirst ihOthers =>
      rcases Derivation.operands_beside_eq_ok h with
        ⟨negation, negations, hnegation, hnegations, rfl⟩
      rw [Derivation.symbols_beside, first.nestsWithin_symbols_append] at hwithin
      have hfirst := ihFirst hwithin.left
        (fun hcontra => hnots (hcontra.mono (front_inside _ _ _))) hnegation hopened
      have hothers := ihOthers hwithin.right
        (fun hcontra => hnots (hcontra.mono (behind_inside _ _ [] _))) hnegations hopened
      exact List.forall_mem_append.mpr ⟨fun plain hplain => (hfirst plain hplain).withoutNots,
        hothers⟩
  | not negated ih =>
      rcases Derivation.operands_not_eq_ok h with ⟨inner, hinner, rfl⟩
      rcases hwithin with ⟨hhere, hnegated⟩
      rw [rise, Int.add_zero] at hhere hnegated
      have hnots' : ¬ NegatesGroupTwice
          (List.replicate (nots + 1) (.operator .not) ++ negated.symbols) := by
        rw [List.replicate_succ', List.append_assoc]
        exact hnots
      have hchildren := ih hnegated hnots' hinner hopened
      intro plain hplain
      rcases List.mem_map.mp hplain with ⟨child, hchild, rfl⟩
      rw [Node.normal, rendersWithin_not_iff, Node.groupDepth]
      refine ⟨?_, hchildren child hchild⟩
      change opened + ((nots + 1 : Nat) : Int) ≤ limit at hhere
      change opened + ((nots + 1 : Nat) : Int) ≤ limit + child.normal.groupDepth
      omega
  | group only ih => exact ih hwithin hnots h hopened
  | parentheses inner ih =>
      rcases Derivation.operands_parentheses_eq_ok h with ⟨disjuncts, hdisjuncts, rfl⟩
      -- The parenthesis makes up for one `not`, which may join the `not`s of what it encloses.
      have hfew : nots ≤ 1 := by
        by_contra hmany
        rcases Nat.exists_eq_add_of_le' (Nat.lt_of_not_le hmany) with ⟨more, rfl⟩
        apply hnots
        rw [List.replicate_add, List.append_assoc]
        exact ⟨List.replicate more (.operator .not), inner.symbols ++ [.closing], by simp⟩
      have hinside : inner.symbols <:+:
          List.replicate nots (.operator .not) ++ (Derivation.parentheses inner).symbols :=
        ⟨List.replicate nots (.operator .not) ++ [.opening], [.closing], by simp⟩
      rw [Derivation.nestsWithin_parentheses] at hwithin
      have hdeeper := Derivation.le_of_nestsWithin_symbols hwithin
      have hchildren := ih hwithin (fun hcontra => hnots (hcontra.mono hinside)) hdisjuncts
        hdeeper
      have hgroup : RendersWithin (limit + (Node.or disjuncts).normal.groupDepth)
          (opened + 1) 0 (Node.or disjuncts).normal :=
        rendersWithin_group .or hdeeper hchildren
      refine List.forall_mem_singleton.mpr ?_
      apply NestsWithin.mono hgroup
      · omega
      · simp only [Rule.notsBefore]
        omega
  | phrase words =>
      cases h
      refine List.forall_mem_singleton.mpr ?_
      apply NestsWithin.mono hwithin
      · simp only [Node.normal, Node.groupDepth]
        omega
      · simp only [Node.normal, Node.groupDepth, Rule.notsBefore]
        omega
  | word text =>
      rcases Derivation.operands_word_eq_ok h with ⟨term, hterm, rfl⟩
      refine List.forall_mem_singleton.mpr ?_
      rw [RendersWithin, Node.normal, Node.derivation, text_of_ofText hterm]
      apply NestsWithin.mono hwithin
      · simp only [Node.groupDepth]
        omega
      · simp only [Node.groupDepth, Rule.notsBefore]
        omega

theorem nesting_rendered_le {query : Text} {node : Node} {lexemes : List Lexeme}
    (h : Node.parse query = .ok node) (hscan : Lexeme.scan query = .ok lexemes)
    (hnots : ¬ NegatesGroupTwice (lexemes.map Lexeme.symbol)) :
    nesting node.derivation.symbols ≤ nesting (lexemes.map Lexeme.symbol) + node.groupDepth := by
  rcases exists_derivation_of_parse h with
    ⟨lexemes', derivation, plain, hscan', hsymbols, _, htree, rfl⟩
  rw [hscan] at hscan'
  cases hscan'
  rcases bind_eq_ok htree with ⟨operands, hoperands, hplain⟩
  cases hplain
  rw [← hsymbols] at hnots ⊢
  have hnonneg := nesting_nonneg derivation.symbols
  have hwithin : NestsWithin (nesting derivation.symbols) 0 0 derivation.symbols :=
    (nestsWithin_iff hnonneg).mpr (Int.le_refl _)
  have hoperandsWithin := rendersWithin_operands hwithin hnots hoperands
  have hnode : RendersWithin (nesting derivation.symbols + (Node.or operands).normal.groupDepth) 0 0
      (Node.or operands).normal :=
    rendersWithin_group .or hnonneg hoperandsWithin
  apply (nestsWithin_iff _).mp hnode
  omega

end

end Grammar

namespace Node

/--
A canonical tree whose words compile is read back from its rendering, unless the rendering nests
deeper than 128, which is then the error.  The tree of a query is canonical; where no group of the
query is negated twice in a row, its rendering nests deeper than the query by no more than its
groups do in each other.
-/
theorem render_reads_back [PatternCompiler] :
    (∀ node : Node, node.IsCanonical → node.WordsCompile →
      ∃ lexemes, Lexeme.scan node.render = .ok lexemes ∧
        (nesting (lexemes.map Lexeme.symbol) ≤ 128 → parse node.render = .ok node) ∧
        (128 < nesting (lexemes.map Lexeme.symbol) →
          ∃ position, parse node.render = .error (.tooDeep 128 position))) ∧
    ∀ query node, parse query = .ok node →
      (parse node.render = .ok node ∨
        ∃ position, parse node.render = .error (.tooDeep 128 position)) ∧
      ∀ lexemes, Lexeme.scan query = .ok lexemes →
        ¬ Grammar.NegatesGroupTwice (lexemes.map Lexeme.symbol) →
          ∃ rendered, Lexeme.scan node.render = .ok rendered ∧
            nesting (rendered.map Lexeme.symbol) ≤
              nesting (lexemes.map Lexeme.symbol) + node.groupDepth := by
  constructor
  · intro node hnode hwords
    rcases hnode.scan_render with ⟨lexemes, hscan, _⟩
    exact ⟨lexemes, hscan, hnode.parse_render hwords hscan⟩
  · intro query node hparse
    have hnode := Grammar.isCanonical_of_parse hparse
    rcases hnode.scan_render with ⟨rendered, hscan, hsymbols⟩
    constructor
    · rcases hnode.parse_render (Grammar.wordsCompile_of_parse hparse) hscan with
        ⟨haccept, hrefuse⟩
      by_cases hle : nesting (rendered.map Lexeme.symbol) ≤ maxNesting
      · exact Or.inl (haccept hle)
      · exact Or.inr (hrefuse (Int.not_le.mp hle))
    · intro lexemes hlexemes hnots
      refine ⟨rendered, hscan, ?_⟩
      rw [hsymbols]
      exact Grammar.nesting_rendered_le hparse hlexemes hnots

/-!
## A group negated too often
-/

variable (count : Nat)

/-- A query behind so many `not`s. -/
def negated (query : Text) : Text :=
  (List.replicate count ['n', 'o', 't', ' ']).flatten ++ query

theorem spellsSymbols_negated {query : Text} {symbols : List Symbol}
    (h : Lexeme.SpellsSymbols query symbols) :
    Lexeme.SpellsSymbols (negated count query)
      (List.replicate count (.operator .not) ++ symbols) := by
  induction count with
  | zero => exact h
  | succ count ih => exact ih.keyword .not

theorem symbols_iterate_not (derivation : Grammar.Derivation .negation) :
    (Grammar.Derivation.not^[count] derivation).symbols =
      List.replicate count (.operator .not) ++ derivation.symbols := by
  induction count with
  | zero => rfl
  | succ count ih =>
      rw [Function.iterate_succ_apply', Grammar.Derivation.symbols_not, ih]
      rfl

theorem operands_iterate_not [PatternCompiler] {derivation : Grammar.Derivation .negation}
    {plain : Node}
    (h : derivation.operands = .ok [plain]) :
    (Grammar.Derivation.not^[count] derivation).operands = .ok [Node.not^[count] plain] := by
  induction count with
  | zero => exact h
  | succ count ih =>
      rw [Function.iterate_succ_apply', Function.iterate_succ_apply',
        Grammar.Derivation.operands_not, ih]
      rfl

theorem normal_iterate_not (node : Node) :
    (Node.not^[count] node).normal = Node.not^[count] node.normal := by
  induction count with
  | zero => rfl
  | succ count ih =>
      rw [Function.iterate_succ_apply', Function.iterate_succ_apply', normal, ih]

theorem derivation_iterate_not (node : Node) :
    (Node.not^[count] node).derivation = Grammar.Derivation.not^[count] node.derivation := by
  induction count with
  | zero => rfl
  | succ count ih =>
      rw [Function.iterate_succ_apply', Function.iterate_succ_apply', derivation, ih]

theorem groupDepth_iterate_not (node : Node) :
    (Node.not^[count] node).groupDepth = node.groupDepth := by
  induction count with
  | zero => rfl
  | succ count ih => rw [Function.iterate_succ_apply', groupDepth, ih]

theorem nestsWithin_nots {limit opened : Int} {nots : Nat} {symbols : List Symbol}
    (hlimit : opened + nots ≤ limit) :
    NestsWithin limit opened nots (List.replicate count (.operator .not) ++ symbols) ↔
      opened + (nots + count : Nat) ≤ limit ∧ NestsWithin limit opened (nots + count) symbols := by
  induction count generalizing nots with
  | zero => exact (and_iff_right hlimit).symm
  | succ count ih =>
      have hbehind : notsBehind nots (.operator .not) = nots + 1 := rfl
      have hcount : nots + (count + 1) = nots + 1 + count := by omega
      rw [List.replicate_succ, List.cons_append, NestsWithin, rise, Int.add_zero, hbehind, hcount]
      constructor
      · rintro ⟨hhere, hrest⟩
        exact (ih hhere).mp hrest
      · rintro ⟨htotal, hrest⟩
        have hhere : opened + (nots + 1 : Nat) ≤ limit := by omega
        exact ⟨hhere, (ih hhere).mpr ⟨htotal, hrest⟩⟩

theorem parse_negated [PatternCompiler] (hcount : count ≤ maxNesting) :
    parse (negated count "(not a)".toList) =
      .ok (Node.not^[count] (.not (.word ⟨['a']⟩))) := by
  have hgroup : Lexeme.SpellsSymbols "(not a)".toList
      [.opening, .operator .not, .word ['a'], .closing] :=
    @Lexeme.spellsSymbols_of_scan _
      [⟨.opening, 0⟩, ⟨.operator .not, 1⟩, ⟨.word ['a'], 5⟩, ⟨.closing, 6⟩] (by cbv)
  rcases (spellsSymbols_negated count hgroup).exists_scan with ⟨lexemes, hscan, hsymbols⟩
  let group : Grammar.Derivation .negation :=
    .group (.parentheses (.conjunction (.negation (.not (.group (.word ['a']))))))
  have hderivation : (Grammar.Derivation.not^[count] group).symbols =
      lexemes.map Lexeme.symbol := by
    rw [hsymbols]
    exact symbols_iterate_not count group
  have hnesting : nesting (lexemes.map Lexeme.symbol) ≤ maxNesting := by
    rw [hsymbols, ← nestsWithin_iff (by decide), nestsWithin_nots count (by decide)]
    constructor
    · omega
    · simp [NestsWithin, rise, notsBehind, maxNesting]
  have hplain := @operands_iterate_not count _ group _ rfl
  rw [Grammar.parse_of_negation hscan hderivation hnesting hplain, normal_iterate_not]
  rfl

theorem render_of_negated_twice :
    letI := PatternCompiler.unlimited
    let node := Node.not^[128] (.not (.word ⟨['a']⟩))
    parse (negated 128 "(not a)".toList) = .ok node ∧ node.groupDepth = 0 ∧
      ∃ position, parse node.render = .error (.tooDeep 128 position) := by
  intro node
  let _ := PatternCompiler.unlimited
  have hparse : parse (negated 128 "(not a)".toList) = .ok node :=
    parse_negated 128 (Nat.le_refl 128)
  refine ⟨hparse, groupDepth_iterate_not 128 _, ?_⟩
  have hnode := Grammar.isCanonical_of_parse hparse
  rcases hnode.scan_render with ⟨lexemes, hscan, hsymbols⟩
  apply (hnode.parse_render (Grammar.wordsCompile_of_parse hparse) hscan).right
  rw [hsymbols, derivation_iterate_not, symbols_iterate_not, ← Int.not_le,
    ← nestsWithin_iff (by decide), nestsWithin_nots 128 (by decide)]
  rintro ⟨_, hdeep, _⟩
  simp [rise, notsBehind, maxNesting] at hdeep

theorem render_reads_back_nested :
    letI := PatternCompiler.unlimited
    let node := Node.and [.word ⟨['a']⟩, .not (.or [.word ⟨['b']⟩, .word ⟨['c']⟩])]
    parse node.render = .ok node ∧ ∃ rendered, Lexeme.scan node.render = .ok rendered ∧
      nesting (rendered.map Lexeme.symbol) ≤ 3 := by
  intro node
  let _ := PatternCompiler.unlimited
  have hparse : parse "a not (b or c)".toList = .ok node := by cbv
  rcases render_reads_back.left node (Grammar.isCanonical_of_parse hparse)
    (Grammar.wordsCompile_of_parse hparse) with ⟨lexemes, hscan, haccept, _⟩
  rcases (render_reads_back.right _ node hparse).right _ (by cbv) (by decide) with
    ⟨rendered, hrendered, hle⟩
  rw [hscan] at hrendered
  cases hrendered
  have hnesting : nesting (lexemes.map Lexeme.symbol) ≤ 3 := by
    refine Int.le_trans hle ?_
    decide
  exact ⟨haccept (Int.le_trans hnesting (by decide)), lexemes, hscan, hnesting⟩

end Node
end PaperFilter
