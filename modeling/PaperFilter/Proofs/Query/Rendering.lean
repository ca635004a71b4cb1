import PaperFilter.Proofs.Query.Leaves

/-!
# Reading a rendered tree

The canonical form of a tree writes a pair of parentheses around every group and nowhere else.  Its
symbols have a derivation, which gives the tree back, so that reading it fails at most for its
nesting.
-/

namespace PaperFilter

open Structure

/-!
## Keywords between the children of a group
-/

namespace Node.Kind

def keyword : Kind → Keyword
  | .and => .and
  | .or => .or

def separator (kind : Kind) : Text :=
  ' ' :: (kind.keyword.text ++ [' '])

end Node.Kind

namespace Grammar

variable {first next : Derivation .negation} {others : List (Derivation .negation)}

/-!
## Derivations of groups
-/

def allOf (first : Derivation .negation) : List (Derivation .negation) → Derivation .conjunction
  | [] => .negation first
  | next :: others => .and first (allOf next others)

def someOf (first : Derivation .negation) : List (Derivation .negation) → Derivation .disjunction
  | [] => .conjunction (.negation first)
  | next :: others => .or (.negation first) (someOf next others)

/-- The negations with the keyword of a kind between each two. -/
def joined (kind : Node.Kind) (first : Derivation .negation)
    (others : List (Derivation .negation)) : Derivation .disjunction :=
  match kind with
  | .and => .conjunction (allOf first others)
  | .or => someOf first others

theorem symbols_joined_nil (kind : Node.Kind) : (joined kind first []).symbols = first.symbols := by
  cases kind <;> rfl

theorem symbols_joined_cons (kind : Node.Kind) :
    (joined kind first (next :: others)).symbols =
      first.symbols ++ .operator kind.keyword :: (joined kind next others).symbols := by
  cases kind <;> rfl

/-- The negations as a group; without any of them there is no such group, and an empty phrase stands
for them. -/
def enclosed (kind : Node.Kind) : List (Derivation .negation) → Derivation .negation
  | [] => .group (.parentheses (.conjunction (.negation (.group (.phrase [])))))
  | first :: others => .group (.parentheses (joined kind first others))

theorem nestsWithin_joined (kind : Node.Kind) {limit opened : Int} {nots : Nat} :
    NestsWithin limit opened nots (joined kind first others).symbols ↔
      NestsWithin limit opened nots first.symbols ∧
        ∀ other ∈ others, NestsWithin limit opened 0 other.symbols := by
  induction others generalizing first nots with
  | nil =>
      rw [symbols_joined_nil]
      simp
  | cons next others ih =>
      have hkeyword : kind.keyword ≠ .not := by
        cases kind <;> decide
      rw [symbols_joined_cons, first.nestsWithin_symbols_append_operator hkeyword, ih,
        List.forall_mem_cons]

/-- A query that one negation spells has the tree of the negation. -/
theorem parse_of_negation [PatternCompiler] {query : Text} {lexemes : List Lexeme}
    {derivation : Derivation .negation} {plain : Node} (hscan : Lexeme.scan query = .ok lexemes)
    (hsymbols : derivation.symbols = lexemes.map Lexeme.symbol)
    (hnesting : nesting (lexemes.map Lexeme.symbol) ≤ maxNesting)
    (hplain : derivation.operands = .ok [plain]) : Node.parse query = .ok plain.normal := by
  let whole : Derivation .disjunction := .conjunction (.negation derivation)
  have hwhole : whole.symbols = lexemes.map Lexeme.symbol := hsymbols
  have htree : whole.tree = .ok (.or [.and [plain]]) := by
    rw [Derivation.tree, Derivation.operands_conjunction, Derivation.operands_negation, hplain]
    rfl
  rw [parse_of_derivation hscan hwhole hnesting, htree,
    ← Node.normal_eq_of_simplifies (.only .and plain)]
  exact congrArg Except.ok (Node.normal_eq_of_simplifies (.only .or (.and [plain])))

end Grammar

namespace Node

/-!
## The derivation of a rendered tree
-/

mutual

def derivation : Node → Grammar.Derivation .negation
  | .and children => Grammar.enclosed .and (derivations children)
  | .or children => Grammar.enclosed .or (derivations children)
  | .not child => .not (derivation child)
  | .phrase words => .group (.phrase words)
  | .word term => .group (.word term.text)

def derivations : List Node → List (Grammar.Derivation .negation)
  | [] => []
  | child :: rest => derivation child :: derivations rest

end

theorem derivations_eq_map (children : List Node) :
    derivations children = children.map derivation := by
  induction children with
  | nil => rfl
  | cons child rest ih => rw [derivations, ih, List.map_cons]

theorem derivation_node (kind : Kind) (children : List Node) :
    derivation (kind.node children) = Grammar.enclosed kind (children.map derivation) := by
  cases kind <;> simp only [Kind.node, derivation, derivations_eq_map]

theorem renderAppend_node (kind : Kind) (children : List Node) (suffix : Text) :
    renderAppend (kind.node children) suffix =
      '(' :: renderGroupAppend kind.separator children (')' :: suffix) := by
  cases kind <;> rw [Kind.node, renderAppend] <;> rfl

theorem spellsPhrase_joinWith {words : List Text} (h : ∀ word ∈ words, IsWord word) :
    Lexeme.SpellsPhrase (Text.joinWith [' '] words) words := by
  induction words with
  | nil => exact .nil
  | cons first rest ih =>
      have hfirst := h first List.mem_cons_self
      have hrest := ih fun word hword => h word (List.mem_cons_of_mem first hword)
      cases rest with
      | nil =>
          have hlast : Lexeme.SpellsPhrase (first ++ []) [first] := .word hfirst nofun .nil
          rwa [List.append_nil] at hlast
      | cons second more =>
          rw [Text.joinWith, List.append_assoc]
          exact .word hfirst (endsWord_cons rfl _) (.blank rfl hrest)

theorem spellsSymbols_separator (kind : Kind) {text : Text} {symbols : List Symbol}
    (h : Lexeme.SpellsSymbols text symbols) :
    Lexeme.SpellsSymbols (kind.separator ++ text) (.operator kind.keyword :: symbols) := by
  rw [Kind.separator, List.cons_append, List.append_assoc]
  exact (h.keyword kind.keyword).blank rfl

/-- A tree in front of a suffix spells its derivation in front of what the suffix spells. -/
def Spelled (node : Node) : Prop :=
  ∀ (suffix : Text) (symbols : List Symbol), EndsWord suffix →
    Lexeme.SpellsSymbols suffix symbols →
      Lexeme.SpellsSymbols (renderAppend node suffix) (node.derivation.symbols ++ symbols)

theorem spellsSymbols_renderGroupAppend (kind : Kind) {first : Node} {others : List Node}
    (h : ∀ child ∈ first :: others, child.Spelled) {suffix : Text} {symbols : List Symbol}
    (hends : EndsWord suffix) (hsuffix : Lexeme.SpellsSymbols suffix symbols) :
    Lexeme.SpellsSymbols (renderGroupAppend kind.separator (first :: others) suffix)
      ((Grammar.joined kind first.derivation (others.map derivation)).symbols ++ symbols) := by
  induction others generalizing first with
  | nil =>
      rw [renderGroupAppend, List.map_nil, Grammar.symbols_joined_nil]
      exact h first List.mem_cons_self suffix symbols hends hsuffix
  | cons next others ih =>
      have hothers := ih fun child hchild => h child (List.mem_cons_of_mem first hchild)
      have hends' : EndsWord
          (kind.separator ++ renderGroupAppend kind.separator (next :: others) suffix) :=
        endsWord_cons rfl _
      rw [renderGroupAppend, List.map_cons, Grammar.symbols_joined_cons, List.append_assoc]
      exact h first List.mem_cons_self _ _ hends' (spellsSymbols_separator kind hothers)

theorem IsCanonical.spelled {node : Node} (h : node.IsCanonical) : node.Spelled := by
  induction h with
  | group kind children hlength _ _ ih =>
      intro suffix symbols hends hsuffix
      cases children with
      | nil => cases hlength
      | cons first others =>
          rw [renderAppend_node, derivation_node, List.map_cons, Grammar.enclosed,
            Grammar.Derivation.symbols_group, Grammar.Derivation.symbols_parentheses,
            List.cons_append,
            List.append_assoc]
          exact (spellsSymbols_renderGroupAppend kind ih (endsWord_cons rfl suffix)
            hsuffix.closing).opening
  | not child _ ih =>
      intro suffix symbols hends hsuffix
      have hchild := ih suffix symbols hends hsuffix
      rw [renderAppend, derivation, Grammar.Derivation.symbols_not]
      exact hchild.keyword .not
  | phrase words hne hwords =>
      intro suffix symbols hends hsuffix
      rw [renderAppend]
      exact hsuffix.phrase (spellsPhrase_joinWith hwords) hne
  | word term hword hkeyword =>
      intro suffix symbols hends hsuffix
      have hspelled := hsuffix.word hword hends
      rw [Symbol.ofWord_eq_word hkeyword] at hspelled
      rw [renderAppend]
      exact hspelled

theorem IsCanonical.scan_render {node : Node} (h : node.IsCanonical) :
    ∃ lexemes, Lexeme.scan node.render = .ok lexemes ∧
      lexemes.map Lexeme.symbol = node.derivation.symbols := by
  have hspelled := h.spelled [] [] nofun Lexeme.spellsSymbols_nil
  rw [List.append_nil] at hspelled
  exact hspelled.exists_scan

/-!
## The tree of a rendered tree
-/

variable [PatternCompiler]

/-- The derivation of a tree gives the tree back. -/
def Regained (node : Node) : Prop :=
  ∃ plain, node.derivation.operands = .ok [plain] ∧ plain.normal = node

theorem operands_allOf {first : Node} {others : List Node}
    (h : ∀ child ∈ first :: others, child.Regained) :
    ∃ plains, (Grammar.allOf first.derivation (others.map derivation)).operands = .ok plains ∧
      plains.map normal = first :: others := by
  induction others generalizing first with
  | nil =>
      rcases h first List.mem_cons_self with ⟨plain, hplain, hnormal⟩
      exact ⟨[plain], hplain, congrArg (fun node => [node]) hnormal⟩
  | cons next others ih =>
      rcases h first List.mem_cons_self with ⟨plain, hplain, hnormal⟩
      rcases ih fun child hchild => h child (List.mem_cons_of_mem first hchild) with
        ⟨plains, hplains, hnormals⟩
      refine ⟨plain :: plains, ?_, ?_⟩
      · rw [List.map_cons, Grammar.allOf, Grammar.Derivation.operands_and, hplain, hplains]
        rfl
      · rw [List.map_cons, hnormal, hnormals]

theorem operands_someOf {first : Node} {others : List Node}
    (h : ∀ child ∈ first :: others, child.Regained) :
    ∃ plains, (Grammar.someOf first.derivation (others.map derivation)).operands = .ok plains ∧
      plains.map normal = first :: others := by
  have hone : ∀ plain : Node, (Node.and [plain]).normal = plain.normal :=
    fun plain => normal_eq_of_simplifies (.only .and plain)
  induction others generalizing first with
  | nil =>
      rcases h first List.mem_cons_self with ⟨plain, hplain, hnormal⟩
      refine ⟨[.and [plain]], ?_, ?_⟩
      · rw [List.map_nil, Grammar.someOf, Grammar.Derivation.operands_conjunction,
          Grammar.Derivation.operands_negation, hplain]
        rfl
      · rw [List.map_singleton, hone, hnormal]
  | cons next others ih =>
      rcases h first List.mem_cons_self with ⟨plain, hplain, hnormal⟩
      rcases ih fun child hchild => h child (List.mem_cons_of_mem first hchild) with
        ⟨plains, hplains, hnormals⟩
      refine ⟨.and [plain] :: plains, ?_, ?_⟩
      · rw [List.map_cons, Grammar.someOf, Grammar.Derivation.operands_or,
          Grammar.Derivation.operands_negation, hplain, hplains]
        rfl
      · rw [List.map_cons, hone, hnormal, hnormals]

theorem operands_joined (kind : Kind) {first : Node} {others : List Node}
    (hflat : (kind.node (first :: others)).IsFlat)
    (h : ∀ child ∈ first :: others, child.Regained) :
    ∃ plains, (Grammar.joined kind first.derivation (others.map derivation)).operands =
        .ok plains ∧ (Node.or plains).normal = kind.node (first :: others) := by
  cases kind with
  | and =>
      rcases operands_allOf h with ⟨plains, hplains, hnormals⟩
      refine ⟨[.and plains], ?_, ?_⟩
      · rw [Grammar.joined, Grammar.Derivation.operands_conjunction, hplains]
        rfl
      · have hnode := normal_node .and plains
        rw [hnormals, hflat.join_eq] at hnode
        exact (normal_eq_of_simplifies (.only .or (.and plains))).trans hnode
  | or =>
      rcases operands_someOf h with ⟨plains, hplains, hnormals⟩
      refine ⟨plains, hplains, ?_⟩
      have hnode := normal_node .or plains
      rw [hnormals, hflat.join_eq] at hnode
      exact hnode

theorem IsCanonical.regained {node : Node} (h : node.IsCanonical) (hwords : node.WordsCompile) :
    node.Regained := by
  have hflat := h.isFlat
  induction h with
  | group kind children hlength _ _ ih =>
      cases children with
      | nil => cases hlength
      | cons first others =>
          have hchildren : ∀ child ∈ first :: others, child.Regained := by
            intro child hchild
            exact ih child hchild (wordsCompile_node_iff.mp hwords child hchild)
              ((isFlat_node_iff.mp hflat).right.left child hchild)
          rcases operands_joined kind hflat hchildren with ⟨plains, hplains, hnormal⟩
          refine ⟨.or plains, ?_, hnormal⟩
          rw [derivation_node, List.map_cons, Grammar.enclosed, Grammar.Derivation.operands_group,
            Grammar.Derivation.operands_parentheses, hplains]
          rfl
  | not child _ ih =>
      rcases ih (wordsCompile_not_iff.mp hwords) (isFlat_not_iff.mp hflat) with
        ⟨plain, hplain, hnormal⟩
      refine ⟨.not plain, ?_, ?_⟩
      · rw [derivation, Grammar.Derivation.operands_not, hplain]
        rfl
      · rw [normal, hnormal]
  | phrase words _ _ => exact ⟨.phrase words, rfl, rfl⟩
  | word term _ _ =>
      refine ⟨.word term, ?_, rfl⟩
      have hterm := Grammar.ofText_of_compiles (wordsCompile_word_iff.mp hwords)
      rw [derivation, Grammar.Derivation.operands_group, Grammar.Derivation.operands_word, hterm]
      rfl

/-!
## Reading a rendered tree
-/

/-- The rendering of a canonical tree is read as the tree, or refused for its nesting. -/
theorem IsCanonical.parse_render {node : Node} (h : node.IsCanonical) (hwords : node.WordsCompile)
    {lexemes : List Lexeme} (hscan : Lexeme.scan node.render = .ok lexemes) :
    (nesting (lexemes.map Lexeme.symbol) ≤ maxNesting → Node.parse node.render = .ok node) ∧
      (maxNesting < nesting (lexemes.map Lexeme.symbol) →
        ∃ position, Node.parse node.render = .error (.tooDeep maxNesting position)) := by
  rcases h.scan_render with ⟨lexemes', hscan', hsymbols⟩
  rw [hscan] at hscan'
  cases hscan'
  constructor
  · intro hnesting
    rcases h.regained hwords with ⟨plain, hplain, hnormal⟩
    rw [Grammar.parse_of_negation hscan hsymbols.symm hnesting hplain, hnormal]
  · intro hdeep
    let whole : Grammar.Derivation .disjunction := .conjunction (.negation node.derivation)
    have hwhole : whole.symbols = lexemes.map Lexeme.symbol := hsymbols.symm
    exact Grammar.parse_eq_tooDeep hscan hwhole hdeep

/-- A single word or phrase nests nowhere. -/
theorem IsCanonical.parse_leaf {node : Node} (h : node.IsCanonical) (hwords : node.WordsCompile)
    {leaf : Symbol} (hleaf : node.derivation.symbols = [leaf]) (hnesting : nesting [leaf] = 0) :
    Node.parse node.render = .ok node := by
  rcases h.scan_render with ⟨lexemes, hscan, hsymbols⟩
  apply (h.parse_render hwords hscan).left
  rw [hsymbols, hleaf, hnesting]
  decide

/-- A word that is no keyword and compiles is a query. -/
theorem parse_text (term : Term) (hword : IsWord term.text)
    (hkeyword : ∀ keyword : Keyword, term.text.map Char.toLower ≠ keyword.text)
    (hcompiles : Grammar.Compiles term.text) : Node.parse term.text = .ok (.word term) := by
  have hparse := (IsCanonical.word term hword hkeyword).parse_leaf
    (wordsCompile_word_iff.mpr hcompiles) rfl rfl
  have hrender : (Node.word term).render = term.text := List.append_nil term.text
  rwa [hrender] at hparse

end Node
end PaperFilter
