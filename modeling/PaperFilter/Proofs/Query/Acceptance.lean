import PaperFilter.Proofs.Query.Compiling
import PaperFilter.Proofs.Query.Reading
import PaperFilter.Proofs.Query.Spelling
import PaperFilter.Proofs.Query.WellFormed

/-!
# What the parser accepts

A query is accepted if its lexemes are derivable, nest no deeper than the limit and hold no word
that does not compile; its tree is then the normal form of the tree of its derivation.  Of derivable
lexemes within the limit only a word that does not compile can be refused, and it is the leftmost
one that is named.
-/

namespace PaperFilter
namespace Grammar

open Structure

/-!
## Words that compile
-/

section

variable [PatternCompiler]

def compileWord : Symbol → Except QueryError Unit
  | .word text => (Term.ofText text).map fun _ => ()
  | .phrase _ => .ok ()
  | .opening => .ok ()
  | .closing => .ok ()
  | .operator _ => .ok ()

/-- Compile the words outside quotes from left to right. -/
def compileWords : List Symbol → Except QueryError Unit
  | [] => .ok ()
  | symbol :: rest => do
      compileWord symbol
      compileWords rest

theorem compileWords_append (front rest : List Symbol) :
    compileWords (front ++ rest) = (compileWords front).bind fun _ => compileWords rest := by
  induction front with
  | nil => rfl
  | cons symbol front ih =>
      rw [List.cons_append, compileWords, compileWords, ih]
      cases compileWord symbol <;> rfl

theorem compileWord_eq_error {symbol : Symbol} {error : QueryError}
    (h : compileWord symbol = .error error) :
    ∃ text, symbol = .word text ∧ Term.ofText text = .error error := by
  cases symbol with
  | word text =>
      rw [compileWord] at h
      cases hterm : Term.ofText text with
      | error error' =>
          rw [hterm] at h
          cases h
          exact ⟨text, rfl, hterm⟩
      | ok term =>
          rw [hterm] at h
          cases h
  | phrase words => cases h
  | opening => cases h
  | closing => cases h
  | operator keyword => cases h

theorem compileWords_symbols {rule : Rule} (derivation : Derivation rule) :
    compileWords derivation.symbols = derivation.operands.map fun _ => () := by
  induction derivation with
  | conjunction only ih =>
      rw [Derivation.symbols_conjunction, ih, Derivation.operands_conjunction]
      cases only.operands <;> rfl
  | or first others ihFirst ihOthers =>
      rw [Derivation.symbols_or, compileWords_append, ihFirst, compileWords, ihOthers,
        Derivation.operands_or]
      cases first.operands <;> cases others.operands <;> rfl
  | negation only ih => exact ih
  | and first others ihFirst ihOthers =>
      rw [Derivation.symbols_and, compileWords_append, ihFirst, compileWords, ihOthers,
        Derivation.operands_and]
      cases first.operands <;> cases others.operands <;> rfl
  | beside first others ihFirst ihOthers =>
      rw [Derivation.symbols_beside, compileWords_append, ihFirst, ihOthers,
        Derivation.operands_beside, Derivation.operands_and]
      cases first.operands <;> cases others.operands <;> rfl
  | not negated ih =>
      rw [Derivation.symbols_not, compileWords, ih, Derivation.operands_not]
      cases negated.operands <;> rfl
  | group only ih => exact ih
  | parentheses inner ih =>
      rw [Derivation.symbols_parentheses, compileWords, compileWords_append, ih,
        Derivation.operands_parentheses]
      cases inner.operands <;> rfl
  | phrase words => rfl
  | word text =>
      rw [Derivation.symbols_word, compileWords, compileWord, Derivation.operands_word]
      cases Term.ofText text <;> rfl

/-- The word that is named is the leftmost one that does not compile. -/
theorem compileWords_eq_error {symbols : List Symbol} {error : QueryError}
    (h : compileWords symbols = .error error) :
    ∃ before text after, symbols = before ++ .word text :: after ∧
      Term.ofText text = .error error ∧ compileWords before = .ok () := by
  induction symbols with
  | nil => cases h
  | cons symbol rest ih =>
      cases hsymbol : compileWord symbol with
      | error error' =>
          rw [compileWords, hsymbol] at h
          cases h
          rcases compileWord_eq_error hsymbol with ⟨text, rfl, hterm⟩
          exact ⟨[], text, rest, rfl, hterm, rfl⟩
      | ok _ =>
          rw [compileWords, hsymbol] at h
          rcases ih h with ⟨before, text, after, rfl, hterm, hbefore⟩
          refine ⟨symbol :: before, text, after, rfl, hterm, ?_⟩
          rw [compileWords, hsymbol]
          exact hbefore

theorem compileWords_eq_ok_iff {symbols : List Symbol} :
    compileWords symbols = .ok () ↔
      ∀ text, .word text ∈ symbols → Compiles text := by
  constructor
  · intro h text hmem
    rcases List.append_of_mem hmem with ⟨before, after, rfl⟩
    cases hterm : Term.ofText text with
    | error error =>
        rw [compileWords_append, compileWords, compileWord, hterm] at h
        cases hbefore : compileWords before with
        | error error' =>
            rw [hbefore] at h
            cases h
        | ok _ =>
            rw [hbefore] at h
            cases h
    | ok term => exact ⟨term, hterm⟩
  · intro h
    cases hwords : compileWords symbols with
    | error error =>
        rcases compileWords_eq_error hwords with ⟨before, text, after, rfl, hterm, _⟩
        rcases h text (List.mem_append_right before List.mem_cons_self) with ⟨term, hok⟩
        rw [hterm] at hok
        cases hok
    | ok _ => rfl

theorem exists_tree_iff {derivation : Derivation .disjunction} :
    (∃ plain, derivation.tree = .ok plain) ↔
      ∀ text, .word text ∈ derivation.symbols → Compiles text := by
  rw [← compileWords_eq_ok_iff, compileWords_symbols, Derivation.tree]
  cases derivation.operands with
  | error error =>
      constructor
      · rintro ⟨plain, h⟩
        cases h
      · intro h
        cases h
  | ok operands => exact ⟨fun _ => rfl, fun _ => ⟨.or operands, rfl⟩⟩

theorem tree_eq_error {derivation : Derivation .disjunction} {error : QueryError}
    (h : derivation.tree = .error error) : compileWords derivation.symbols = .error error := by
  rw [compileWords_symbols]
  rw [Derivation.tree] at h
  cases hoperands : derivation.operands with
  | error error' =>
      rw [hoperands] at h
      cases h
      rfl
  | ok operands =>
      rw [hoperands] at h
      cases h

/-!
## Accepted queries
-/

theorem parse_of_derivation {query : Text} {lexemes : List Lexeme}
    {derivation : Derivation .disjunction} (hscan : Lexeme.scan query = .ok lexemes)
    (hsymbols : derivation.symbols = lexemes.map Lexeme.symbol)
    (hnesting : nesting (lexemes.map Lexeme.symbol) ≤ maxNesting) :
    Node.parse query = derivation.tree.map Node.normal := by
  have hcheck := (check_eq_ok_iff_derivation lexemes).mpr ⟨⟨derivation, hsymbols⟩, hnesting⟩
  rw [Node.parse, hscan]
  change (do check lexemes; tree query.length lexemes) = _
  rw [hcheck]
  exact tree_eq query.length hsymbols

theorem exists_derivation_of_parse {query : Text} {node : Node}
    (h : Node.parse query = .ok node) :
    ∃ (lexemes : List Lexeme) (derivation : Derivation .disjunction) (plain : Node),
      Lexeme.scan query = .ok lexemes ∧
      derivation.symbols = lexemes.map Lexeme.symbol ∧
      nesting (lexemes.map Lexeme.symbol) ≤ maxNesting ∧
      derivation.tree = .ok plain ∧ plain.normal = node := by
  cases hscan : Lexeme.scan query with
  | error error =>
      rw [Node.parse, hscan] at h
      cases h
  | ok lexemes =>
      cases hcheck : check lexemes with
      | error error =>
          rw [Node.parse, hscan] at h
          change (do check lexemes; tree query.length lexemes) = _ at h
          rw [hcheck] at h
          cases h
      | ok _ =>
          rcases (check_eq_ok_iff_derivation lexemes).mp hcheck with
            ⟨⟨derivation, hsymbols⟩, hnesting⟩
          rw [parse_of_derivation hscan hsymbols hnesting] at h
          cases htree : derivation.tree with
          | error error =>
              rw [htree] at h
              cases h
          | ok plain =>
              rw [htree] at h
              injection h with h
              exact ⟨lexemes, derivation, plain, rfl, hsymbols, hnesting, htree, h⟩

/-- Derivable lexemes that nest too deep are refused for that. -/
theorem parse_eq_tooDeep {query : Text} {lexemes : List Lexeme}
    {derivation : Derivation .disjunction} (hscan : Lexeme.scan query = .ok lexemes)
    (hsymbols : derivation.symbols = lexemes.map Lexeme.symbol)
    (hdeep : maxNesting < nesting (lexemes.map Lexeme.symbol)) :
    ∃ position, Node.parse query = .error (.tooDeep maxNesting position) := by
  rcases (exists_derivation_iff _).mp ⟨derivation, hsymbols⟩ with ⟨hlinked, hcloses⟩
  rcases check_eq_tooDeep hlinked hcloses hdeep with ⟨position, hcheck⟩
  refine ⟨position, ?_⟩
  rw [Node.parse, hscan]
  change (do check lexemes; tree query.length lexemes) = _
  rw [hcheck]
  rfl

end

/--
A query has a tree exactly if its lexemes have a derivation, nest at most 128 deep and hold no word
that does not compile, and the tree is the one that the derivation simplifies to.  The derivation is
the only one.
-/
theorem parse_eq_ok_iff [PatternCompiler] (query : Text) (node : Node) :
    (Node.parse query = .ok node ↔
      ∃ (lexemes : List Lexeme) (derivation : Derivation .disjunction),
        Lexeme.scan query = .ok lexemes ∧
        derivation.symbols = lexemes.map Lexeme.symbol ∧
        nesting (lexemes.map Lexeme.symbol) ≤ 128 ∧
        (∀ text position, ⟨.word text, position⟩ ∈ lexemes → Compiles text) ∧
        ∃ plain, derivation.tree = .ok plain ∧ plain.ReducesTo node) ∧
      ∀ first second : Derivation .disjunction,
        first.symbols = second.symbols → first = second := by
  refine ⟨⟨?_, ?_⟩, fun first second h => Derivation.symbols_inj h⟩
  · intro h
    rcases exists_derivation_of_parse h with
      ⟨lexemes, derivation, plain, hscan, hsymbols, hnesting, htree, hnormal⟩
    refine ⟨lexemes, derivation, hscan, hsymbols, hnesting, ?_, plain, htree,
      Node.reducesTo_iff.mpr hnormal⟩
    intro text position hmem
    apply exists_tree_iff.mp ⟨plain, htree⟩ text
    rw [hsymbols]
    exact List.mem_map_of_mem hmem
  · rintro ⟨lexemes, derivation, hscan, hsymbols, hnesting, _, plain, htree, hreduces⟩
    rw [parse_of_derivation hscan hsymbols hnesting, htree, ← Node.reducesTo_iff.mp hreduces]
    rfl

theorem parse_eq_ok_iff_nested :
    letI := PatternCompiler.unlimited
    Node.parse "a (b or c)".toList =
      .ok (.and [.word ⟨['a']⟩, .or [.word ⟨['b']⟩, .word ⟨['c']⟩]]) := by
  have hword : ∀ c : Char, isQueryChar c = true → IsWord [c] :=
    fun c hc => ⟨List.cons_ne_nil c [], List.forall_mem_singleton.mpr hc⟩
  have hlast : Lexeme.Spells 8 "c)".toList [⟨.word ['c'], 8⟩, ⟨.closing, 9⟩] :=
    @Lexeme.Spells.word 8 ['c'] _ _ (hword 'c' rfl) (endsWord_cons rfl []) (.closing (.nil 10))
  have hor : Lexeme.Spells 5 "or c)".toList (⟨.operator .or, 5⟩ :: _) :=
    @Lexeme.Spells.word 5 ['o', 'r'] _ _ (isWord_keyword .or) (endsWord_cons rfl _)
      (.blank rfl hlast)
  have hsecond : Lexeme.Spells 3 "b or c)".toList (⟨.word ['b'], 3⟩ :: _) :=
    @Lexeme.Spells.word 3 ['b'] _ _ (hword 'b' rfl) (endsWord_cons rfl _) (.blank rfl hor)
  have hspells : Lexeme.Spells 0 "a (b or c)".toList (⟨.word ['a'], 0⟩ :: _) :=
    @Lexeme.Spells.word 0 ['a'] _ _ (hword 'a' rfl) (endsWord_cons rfl _)
      (.blank rfl (.opening hsecond))
  let inner : Derivation .disjunction :=
    .or (.negation (.group (.word ['b']))) (.conjunction (.negation (.group (.word ['c']))))
  refine (@parse_eq_ok_iff .unlimited _ _).left.mpr ⟨_, .conjunction (.beside (.group (.word ['a']))
    (.negation (.group (.parentheses inner)))), Lexeme.scanFrom_of_spells hspells, rfl,
    by decide, ?_, _, rfl, Node.reducesTo_iff.mpr rfl⟩
  intro text position hmem
  have htext : text = ['a'] ∧ position = 0 ∨ text = ['b'] ∧ position = 3 ∨
      text = ['c'] ∧ position = 8 := by
    simpa using hmem
  rcases htext with ⟨rfl, _⟩ | ⟨rfl, _⟩ | ⟨rfl, _⟩ <;> exact ⟨_, rfl⟩

/-!
## Refused queries
-/

section

variable [PatternCompiler]

/-- The word is the leftmost one outside quotes that does not compile. -/
def FirstMisfit (lexemes : List Lexeme) (word : Text) : Prop :=
  ∃ before position after, lexemes = before ++ ⟨.word word, position⟩ :: after ∧
    ¬ Compiles word ∧
    ∀ earlier position, ⟨.word earlier, position⟩ ∈ before → Compiles earlier

/-- What the check accepts is read completely, or refused for a word that does not compile. -/
theorem read_of_check (finish : Nat) {lexemes : List Lexeme} (h : check lexemes = .ok ()) :
    (∃ node, read finish .disjunction lexemes = .ok (node, []) ∧
        ∀ text position, ⟨.word text, position⟩ ∈ lexemes → Compiles text) ∨
      ∃ word reason, read finish .disjunction lexemes = .error (.invalidWildcard word reason) ∧
        FirstMisfit lexemes word := by
  rcases (check_eq_ok_iff_derivation lexemes).mp h with ⟨⟨derivation, hsymbols⟩, _⟩
  rw [read_eq_tree finish hsymbols]
  cases htree : derivation.tree with
  | ok plain =>
      refine Or.inl ⟨plain.normal, rfl, ?_⟩
      intro text position hmem
      apply exists_tree_iff.mp ⟨plain, htree⟩ text
      rw [hsymbols]
      exact List.mem_map_of_mem hmem
  | error error =>
      have hwords := tree_eq_error htree
      rw [hsymbols] at hwords
      rcases compileWords_eq_error hwords with ⟨front, word, back, hsplit, hterm, hfront⟩
      rcases ofText_eq_error hterm with ⟨reason, rfl⟩
      rcases List.map_eq_append_iff.mp hsplit with ⟨before, rest, rfl, rfl, hrest⟩
      rcases List.map_eq_cons_iff.mp hrest with ⟨⟨_, position⟩, after, rfl, rfl, _⟩
      refine Or.inr ⟨word, reason, rfl, before, position, after, rfl, ?_, ?_⟩
      · rintro ⟨term, hok⟩
        rw [hterm] at hok
        cases hok
      · intro earlier position hmem
        exact compileWords_eq_ok_iff.mp hfront earlier (List.mem_map_of_mem hmem)

/-- The errors of the three passes: scanning, the check and the first word that does not compile. -/
theorem parse_eq_error {query : Text} {error : QueryError} (h : Node.parse query = .error error) :
    Lexeme.IsScanError error ∨ Walk.IsStructureError error ∨
      ∃ word reason, error = .invalidWildcard word reason := by
  cases hscan : Lexeme.scan query with
  | error error' =>
      rw [Node.parse, hscan] at h
      cases h
      exact Or.inl (Lexeme.isScanError_of_scanFrom hscan)
  | ok lexemes =>
      rw [Node.parse, hscan] at h
      change (do check lexemes; tree query.length lexemes) = _ at h
      cases hcheck : check lexemes with
      | error error' =>
          rw [hcheck] at h
          cases h
          exact Or.inr (Or.inl (isStructureError_of_check hcheck))
      | ok _ =>
          rw [hcheck] at h
          rcases (check_eq_ok_iff_derivation lexemes).mp hcheck with ⟨⟨derivation, hsymbols⟩, _⟩
          have htree : (derivation.tree.map Node.normal) = .error error := by
            rw [← tree_eq query.length hsymbols]
            exact h
          have hwords := tree_eq_error (map_eq_error htree)
          rcases compileWords_eq_error hwords with ⟨_, word, _, _, hterm, _⟩
          rcases ofText_eq_error hterm with ⟨reason, rfl⟩
          exact Or.inr (Or.inr ⟨word, reason, rfl⟩)

theorem parse_ne_unexpectedToken (query found : Text) (position : Nat) :
    Node.parse query ≠ .error (.unexpectedToken found position) := by
  intro h
  rcases parse_eq_error h with hscan | hstructure | ⟨word, reason, hword⟩
  · exact hscan
  · exact hstructure
  · cases hword

theorem FirstMisfit.exists_mem {lexemes : List Lexeme} {word : Text}
    (h : FirstMisfit lexemes word) :
    ∃ position, ⟨.word word, position⟩ ∈ lexemes ∧ ¬ Compiles word := by
  rcases h with ⟨before, position, after, rfl, hmisfit, _⟩
  exact ⟨position, List.mem_append_right before List.mem_cons_self, hmisfit⟩

end

/--
No query is refused for a symbol where the grammar asks for something else: of the lexemes that the
check accepts, the grammar reads all, unless a word does not compile, and then it names the leftmost
such word.
-/
theorem orExpr_of_check [PatternCompiler] :
    (∀ query found position, Node.parse query ≠ .error (.unexpectedToken found position)) ∧
    ∀ finish lexemes, check lexemes = .ok () →
      ((∃ found, orExpr finish lexemes = .ok found ∧ found.rest = []) ∨
        ∃ word reason, orExpr finish lexemes = .error (.invalidWildcard word reason)) ∧
      ((∃ word reason, orExpr finish lexemes = .error (.invalidWildcard word reason)) ↔
        ∃ text position, ⟨.word text, position⟩ ∈ lexemes ∧ ¬ Compiles text) ∧
      ∀ word reason, orExpr finish lexemes = .error (.invalidWildcard word reason) →
        FirstMisfit lexemes word := by
  refine ⟨parse_ne_unexpectedToken, ?_⟩
  intro finish lexemes hcheck
  rcases read_of_check finish hcheck with ⟨node, hread, hcompiles⟩ | ⟨word, reason, hread, hfirst⟩
  · rcases map_eq_ok hread with ⟨found, hfound, hparts⟩
    have hrest : found.rest = [] := congrArg Prod.snd hparts
    rw [hfound]
    refine ⟨Or.inl ⟨found, rfl, hrest⟩, ⟨?_, ?_⟩, ?_⟩
    · rintro ⟨word, reason, h⟩
      cases h
    · rintro ⟨text, position, hmem, hmisfit⟩
      exact absurd (hcompiles text position hmem) hmisfit
    · intro word reason h
      cases h
  · have hfound : orExpr finish lexemes = .error (.invalidWildcard word reason) :=
      map_eq_error hread
    rw [hfound]
    refine ⟨Or.inr ⟨word, reason, rfl⟩, ⟨?_, ?_⟩, ?_⟩
    · intro _
      exact ⟨word, hfirst.exists_mem⟩
    · intro _
      exact ⟨word, reason, rfl⟩
    · intro word' reason' h
      cases h
      exact hfirst

/-- A word of 12000 stars behind `not` is refused where expressions are limited in length. -/
theorem orExpr_of_check_misfit :
    letI : PatternCompiler :=
      ⟨fun expression => if expression.length ≤ 20000 then none else some "too large".toList⟩
    let lexemes : List Lexeme := [⟨.word "a*b*".toList, 0⟩, ⟨.operator .not, 5⟩,
      ⟨.word (List.replicate 12000 '*'), 9⟩]
    check lexemes = .ok () ∧ ∃ reason,
      orExpr 12009 lexemes = .error (.invalidWildcard (List.replicate 12000 '*') reason) := by
  have hcount : (List.replicate 12000 '*').count '*' = 12000 := List.count_replicate_self
  let _ : PatternCompiler :=
    ⟨fun expression => if expression.length ≤ 20000 then none else some "too large".toList⟩
  have hmisfit : ¬ Compiles (List.replicate 12000 '*') := by
    have hlong := Wildcard.two_mul_count_le_expression (List.replicate 12000 '*')
    rw [compiles_iff, Wildcard.ofWord_of_two_le_count (by omega), Wildcard.refusal?]
    change (if _ then none else some _) ≠ none
    rw [if_neg (by omega)]
    exact Option.some_ne_none _
  have hcompiles : Compiles "a*b*".toList := ⟨⟨"a*b*".toList⟩, by cbv⟩
  revert hmisfit
  generalize List.replicate 12000 '*' = stars
  intro hmisfit lexemes
  have hcheck : check lexemes = .ok () := rfl
  rcases orExpr_of_check.right 12009 lexemes hcheck with ⟨_, hiff, hfirst⟩
  rcases hiff.mpr ⟨stars, 9, by simp [lexemes], hmisfit⟩ with ⟨word, reason, hfound⟩
  rcases (hfirst word reason hfound).exists_mem with ⟨position, hmem, hword⟩
  simp only [lexemes, List.mem_cons, Lexeme.mk.injEq, reduceCtorEq, false_and, Symbol.word.injEq,
    List.not_mem_nil, or_false, false_or] at hmem
  rcases hmem with ⟨rfl, _⟩ | ⟨rfl, _⟩
  · exact absurd hcompiles hword
  · exact ⟨hcheck, reason, hfound⟩

end Grammar
end PaperFilter
