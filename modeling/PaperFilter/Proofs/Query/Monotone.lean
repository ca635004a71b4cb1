import PaperFilter.Proofs.Query.Composition
import PaperFilter.Proofs.Query.Wildcard

/-!
# Queries without negations

A query without negations goes on holding when a text grows.  Behind a gap of delimiters a text
loses none of its tokens but empty ones, and an empty token is matched only by a word that matches
every token.
-/

namespace PaperFilter

/-!
## Words and empty tokens
-/

namespace Wildcard

/-- Between the pieces of a pattern there are characters, for which an empty token has no room. -/
theorem any_fitting_nil (first second : Text) (more : List Text) :
    (fitting (first :: second :: more) []).any id = false := by
  rw [← Bool.not_eq_true, any_fitting_iff]
  intro h
  rcases h with ⟨before, middle, after, htoken, hwoven⟩
  rcases isWoven_cons.mp hwoven with ⟨gap, rest, hgap, rfl, _⟩
  simp only [List.nil_eq, List.append_eq_nil_iff] at htoken
  exact hgap.left htoken.right.left.right.left

/-- What matches an empty token matches every token. -/
theorem matchesToken_ofPieces {pieces : List Text} (hne : Text.joinWith ['*'] pieces ≠ [])
    (h : (ofPieces pieces).matchesToken [] = true) (token : Text) :
    (ofPieces pieces).matchesToken token = true := by
  revert h
  fun_cases ofPieces pieces with
  | case1 word =>
      intro h
      exact absurd (eq_of_beq h).symm hne
  | case2 ending =>
      intro h
      rw [matchesToken, List.isSuffixOf_iff_suffix, List.suffix_nil] at h
      rw [matchesToken, List.isSuffixOf_iff_suffix, h]
      exact List.nil_suffix
  | case3 beginning _ =>
      intro h
      rw [matchesToken, List.isPrefixOf_iff_prefix, List.prefix_nil] at h
      rw [matchesToken, List.isPrefixOf_iff_prefix, h]
      exact List.nil_prefix
  | case4 _ honly _ _ =>
      intro h
      rcases pieces with _ | ⟨first, _ | ⟨second, more⟩⟩
      · exact absurd rfl hne
      · exact absurd rfl (honly first)
      · rw [matchesToken, any_fitting_nil] at h
        cases h

theorem matchesToken_of_nil {word : Text} (hne : word ≠ [])
    (h : (ofWord word).matchesToken [] = true) (token : Text) :
    (ofWord word).matchesToken token = true := by
  apply matchesToken_ofPieces _ h
  rwa [Text.joinWith_splitOn]

/-- A word goes on matching where there are tokens and none is lost but empty ones. -/
theorem matchesAny_mono {word : Text} (hne : word ≠ []) {tokens others : List Text}
    (hothers : others ≠ []) (hkept : ∀ token ∈ tokens, token ≠ [] → token ∈ others)
    (h : (ofWord word).matchesAny tokens = true) : (ofWord word).matchesAny others = true := by
  rcases List.any_eq_true.mp h with ⟨token, hmem, hmatch⟩
  apply List.any_eq_true.mpr
  by_cases hempty : token = []
  · rcases List.exists_mem_of_ne_nil others hothers with ⟨other, hother⟩
    rw [hempty] at hmatch
    exact ⟨other, hother, matchesToken_of_nil hne hmatch other⟩
  · exact ⟨token, hkept token hmem hempty, hmatch⟩

end Wildcard

/-!
## Texts that grow
-/

namespace Context

/-- What a query can find in the first context is found in the second. -/
structure IsWithin (context larger : Context) : Prop where
  text : context.text <:+: larger.text
  tokens_ne_nil : larger.tokens ≠ []
  tokens : ∀ token ∈ context.tokens, token ≠ [] → token ∈ larger.tokens

theorem isWithin_of_runs {part text : Text} (hpart : part <:+: text) (hne : text ≠ [])
    (hruns : Text.runs (fun c => !Token.isDelimiter c) part ⊆
      Text.runs (fun c => !Token.isDelimiter c) text) :
    (ofText part).IsWithin (ofText text) where
  text := hpart
  tokens_ne_nil := tokenize_ne_nil hne
  tokens := by
    intro token htoken htokenNe
    rcases (mem_tokenize_iff htokenNe).mp htoken with ⟨run, hrun, hmem⟩
    exact (mem_tokenize_iff htokenNe).mpr ⟨run, hruns hrun, hmem⟩

/-- With a gap of delimiters between them, each of two texts is found in the whole. -/
theorem isWithin_append {gap : Text} (hne : gap ≠ [])
    (hgap : ∀ c ∈ gap, Token.isDelimiter c = true) (first second : Text) :
    (ofText first).IsWithin (ofText (first ++ (gap ++ second))) ∧
      (ofText second).IsWithin (ofText (first ++ (gap ++ second))) := by
  have hwhole : first ++ (gap ++ second) ≠ [] :=
    List.append_ne_nil_of_right_ne_nil first (List.append_ne_nil_of_left_ne_nil hne second)
  have hclass : ∀ c ∈ gap, (!Token.isDelimiter c) = false := by
    intro c hc
    rw [hgap c hc]
    rfl
  have hruns := Text.runs_append_gap hne hclass first second
  constructor
  · apply isWithin_of_runs (List.prefix_append _ _).isInfix hwhole
    rw [hruns]
    exact List.subset_append_left _ _
  · apply isWithin_of_runs _ hwhole
    · rw [hruns]
      exact List.subset_append_right _ _
    · rw [← List.append_assoc]
      exact (List.suffix_append _ _).isInfix

end Context

/-!
## Trees without negations
-/

namespace Node

/-- Groups of phrases and of words that are not empty. -/
inductive IsPositive : Node → Prop where
  | group (kind : Kind) (children : List Node) :
      (∀ child ∈ children, IsPositive child) → IsPositive (kind.node children)
  | phrase (words : List Text) : IsPositive (.phrase words)
  | word (term : Term) : term.text ≠ [] → IsPositive (.word term)

theorem IsPositive.eval_mono {node : Node} (h : node.IsPositive) {context larger : Context}
    (hwithin : context.IsWithin larger) (heval : node.eval context = true) :
    node.eval larger = true := by
  induction h with
  | group kind children _ ih =>
      cases kind with
      | and =>
          rw [Kind.node, eval_and, List.all_eq_true] at heval ⊢
          exact fun child hchild => ih child hchild (heval child hchild)
      | or =>
          rw [Kind.node, eval_or, List.any_eq_true] at heval ⊢
          rcases heval with ⟨child, hchild, hholds⟩
          exact ⟨child, hchild, ih child hchild hholds⟩
  | phrase words =>
      rw [eval_phrase, Text.occursIn_iff] at heval ⊢
      exact heval.trans hwithin.text
  | word term hne =>
      rw [eval] at heval ⊢
      exact Wildcard.matchesAny_mono hne hwithin.tokens_ne_nil hwithin.tokens heval

end Node

namespace Grammar

theorem isPositive_operands [PatternCompiler] {rule : Rule} {derivation : Derivation rule}
    {plains : List Node} (hspellable : ∀ symbol ∈ derivation.symbols, symbol.IsSpellable)
    (hnot : .operator .not ∉ derivation.symbols) (h : derivation.operands = .ok plains) :
    ∀ plain ∈ plains, plain.IsPositive := by
  refine forall_operands ?group ?not ?phrase ?word (List.Subset.refl derivation.symbols) h
  case group => exact fun kind plains _ => .group kind plains
  case not => exact fun hmem => absurd hmem hnot
  case phrase => exact fun words _ => .phrase words
  case word =>
    intro term hmem
    rcases hspellable _ hmem with ⟨⟨hne, _⟩, _⟩
    exact .word term hne

/--
A query without negations that a text matches is matched by every longer text in which the text
stands at one end, with a gap of delimiters between itself and the rest.
-/
theorem matchesExpression_mono [PatternCompiler] {expression : Text} {lexemes : List Lexeme}
    (hscan : Lexeme.scan expression = .ok lexemes)
    (hnot : ∀ lexeme ∈ lexemes, lexeme.symbol ≠ .operator .not) {first second gap : Text}
    (hne : gap ≠ []) (hgap : ∀ c ∈ gap, Token.isDelimiter c = true)
    (hmatch : matchesExpression first expression = .ok true) :
    matchesExpression (first ++ gap ++ second) expression = .ok true ∧
      matchesExpression (second ++ gap ++ first) expression = .ok true := by
  rcases Parsed.exists_of_matchesExpression hmatch with ⟨parsed, hwithin, heval⟩
  rcases parsed.spells.exists_scan with ⟨found, hfound, hsymbols⟩
  cases hscan.symm.trans hfound
  have hspellable : ∀ symbol ∈ parsed.derivation.symbols, symbol.IsSpellable := by
    rw [← hsymbols]
    exact List.forall_mem_map.mpr (Lexeme.spells_of_scanFrom hscan).isSpellable
  have hpositive : (Node.or parsed.operands).IsPositive := by
    apply Node.IsPositive.group .or
    apply isPositive_operands hspellable _ parsed.compiles
    rw [← hsymbols, List.mem_map]
    rintro ⟨lexeme, hlexeme, hsymbol⟩
    exact hnot lexeme hlexeme hsymbol
  rw [parsed.matchesExpression_eq hwithin, parsed.matchesExpression_eq hwithin,
    List.append_assoc, List.append_assoc]
  constructor
  · have hfirst := (Context.isWithin_append hne hgap first second).left
    rw [hpositive.eval_mono hfirst heval]
  · have hsecond := (Context.isWithin_append hne hgap second first).right
    rw [hpositive.eval_mono hsecond heval]

/-- A lone star matches an empty token, which is gone when another text stands beside it. -/
theorem matchesExpression_mono_lone_star :
    letI := PatternCompiler.unlimited
    matchesExpression ",".toList "x or *".toList = .ok true ∧
      matchesExpression (",".toList ++ " ".toList ++ "a".toList) "x or *".toList = .ok true ∧
      matchesExpression ("a".toList ++ " ".toList ++ ",".toList) "x or *".toList = .ok true := by
  let _ := PatternCompiler.unlimited
  have hscan : Lexeme.scan "x or *".toList =
      .ok [⟨.word ['x'], 0⟩, ⟨.operator .or, 2⟩, ⟨.word ['*'], 5⟩] := by
    cbv
  have hmatch : matchesExpression ",".toList "x or *".toList = .ok true := by cbv
  have hgap : ∀ c ∈ " ".toList, Token.isDelimiter c = true := List.forall_mem_singleton.mpr rfl
  exact ⟨hmatch, matchesExpression_mono hscan (by decide) (by decide) hgap hmatch⟩

end Grammar
end PaperFilter
