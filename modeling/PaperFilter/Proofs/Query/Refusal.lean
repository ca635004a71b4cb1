import PaperFilter.Proofs.Query.Transcription
import PaperFilter.Proofs.Unicode.Blank

/-!
# Why a query is refused

Whether a query is refused, and for what, does not depend on the tree: it is settled by the scan,
the check and the words that do not compile.  Blanks around a query change nothing but the place of
the error, which moves with the blanks in front.
-/

namespace PaperFilter

open Unicode

/-!
## Kinds of errors
-/

inductive QueryError.Kind where
  | empty
  | unexpectedCharacter
  | unterminatedQuote
  | emptyGroup
  | unbalancedParens
  | missingOperand
  | tooDeep
  | unexpectedToken
  | invalidWildcard
deriving Repr, DecidableEq

def QueryError.kind : QueryError → QueryError.Kind
  | .empty => .empty
  | .unexpectedCharacter _ _ => .unexpectedCharacter
  | .unterminatedQuote _ => .unterminatedQuote
  | .emptyGroup _ => .emptyGroup
  | .unbalancedParens _ => .unbalancedParens
  | .missingOperand _ _ => .missingOperand
  | .tooDeep _ _ => .tooDeep
  | .unexpectedToken _ _ => .unexpectedToken
  | .invalidWildcard _ _ => .invalidWildcard

namespace Transcription

variable [PatternCompiler] (transcription : Transcription)

theorem kind_error (error : QueryError) : (transcription.error error).kind = error.kind := by
  cases error <;> rfl

theorem position_error (error : QueryError) :
    (transcription.error error).position? =
      error.position?.map (· + transcription.offset) := by
  cases error <;> rfl

end Transcription

namespace Lexeme

/-!
## Blanks around a text
-/

theorem scanFrom_blanks_append {blanks : Text} (hblanks : ∀ c ∈ blanks, isBlank c = true)
    (position : Nat) (text : Text) :
    scanFrom position (blanks ++ text) = scanFrom (position + blanks.length) text := by
  induction blanks generalizing position with
  | nil => rfl
  | cons c rest ih =>
      rcases List.forall_mem_cons.mp hblanks with ⟨hblank, hrest⟩
      rw [List.cons_append, scanFrom_blank hblank, ih hrest, List.length_cons, Nat.add_assoc,
        Nat.add_comm 1]

theorem scanFrom_blanks {blanks : Text} (hblanks : ∀ c ∈ blanks, isBlank c = true)
    (position : Nat) : scanFrom position blanks = .ok [] := by
  have h := scanFrom_blanks_append hblanks position []
  rw [List.append_nil] at h
  rw [h, scanFrom]

theorem endsWord_blanks {blanks : Text} (hblanks : ∀ c ∈ blanks, isBlank c = true) :
    EndsWord blanks := by
  cases blanks with
  | nil =>
      intro c hc
      cases hc
  | cons c rest =>
      exact endsWord_cons (isQueryChar_eq_false_of_isBlank (hblanks c List.mem_cons_self)) rest

theorem scanPhrase_blanks {blanks : Text} (hblanks : ∀ c ∈ blanks, isBlank c = true)
    (start position : Nat) :
    (scanPhrase start position blanks).map Shorter.parts = .error (.unterminatedQuote start) := by
  induction blanks generalizing position with
  | nil =>
      rw [scanPhrase]
      rfl
  | cons c rest ih =>
      rcases List.forall_mem_cons.mp hblanks with ⟨hblank, hrest⟩
      rw [scanPhrase_blank hblank, ih hrest]

theorem scanPhrase_append_blanks {blanks : Text} (hblanks : ∀ c ∈ blanks, isBlank c = true)
    (start position : Nat) (text : Text) :
    (scanPhrase start position (text ++ blanks)).map Shorter.parts =
      ((scanPhrase start position text).map Shorter.parts).map fun found =>
        (found.1, found.2 ++ blanks) := by
  induction position, text using scanPhrase.induct with
  | case1 position =>
      rw [List.nil_append, scanPhrase_blanks hblanks, scanPhrase]
      rfl
  | case2 position rest =>
      rw [List.cons_append, scanPhrase_quote, scanPhrase_quote]
      rfl
  | case3 position c rest _ hblank ih =>
      rw [List.cons_append, scanPhrase_blank hblank, scanPhrase_blank hblank, ih]
  | case4 =>
      rename_i position c rest _ _ hc letters word ih
      have hword := isWord_cons_takeWhile hc rest
      have htext := endsWord_dropWhile rest
      rw [← cons_takeWhile_append_dropWhile c rest, List.append_assoc,
        scanPhrase_word hword (htext.append (endsWord_blanks hblanks)), scanPhrase_word hword htext]
      refine (congrArg (Except.map _) ih).trans ?_
      apply map_map_comm
      intro found
      rfl
  | case5 position c rest hquote hblank hc =>
      rw [List.cons_append, scanPhrase, scanPhrase, if_neg hquote, if_neg hblank, if_neg hc,
        if_neg hquote, if_neg hblank, if_neg hc]
      rfl

theorem scanFrom_append_blanks {blanks : Text} (hblanks : ∀ c ∈ blanks, isBlank c = true)
    (position : Nat) (text : Text) :
    scanFrom position (text ++ blanks) = scanFrom position text := by
  induction position, text using scanFrom.induct with
  | case1 position => rw [List.nil_append, scanFrom_blanks hblanks, scanFrom]
  | case2 position c rest hblank ih =>
      rw [List.cons_append, scanFrom_blank hblank, scanFrom_blank hblank, ih]
  | case3 position rest _ ih => rw [List.cons_append, scanFrom_opening, scanFrom_opening, ih]
  | case4 position rest _ _ ih => rw [List.cons_append, scanFrom_closing, scanFrom_closing, ih]
  | case5 position rest _ _ _ ih =>
      rw [List.cons_append, scanFrom_quote, scanFrom_quote, scanPhrase_append_blanks hblanks]
      cases scanPhrase position (position + 1) rest with
      | error error => rfl
      | ok phrase =>
          have hrest := ih phrase phrase.value.2
          simp only [Except.map, Except.bind, Shorter.parts, hrest]
  | case6 =>
      rename_i position c rest _ _ _ _ hc letters word ih
      have hword := isWord_cons_takeWhile hc rest
      have htext := endsWord_dropWhile rest
      rw [← cons_takeWhile_append_dropWhile c rest, List.append_assoc,
        scanFrom_word hword (htext.append (endsWord_blanks hblanks)), scanFrom_word hword htext]
      exact congrArg (Except.map _) ih
  | case7 position c rest hblank hopening hclosing hquote hc =>
      rw [List.cons_append, scanFrom, scanFrom, if_neg hblank, if_neg hopening, if_neg hclosing,
        if_neg hquote, if_neg hc, if_neg hblank, if_neg hopening, if_neg hclosing, if_neg hquote,
        if_neg hc]

theorem scanFrom_trim (query : Text) :
    scanFrom 0 query = scanFrom (leadingBlanks query).length (trim query) := by
  rw [← scanFrom_append_blanks (fun _ => isBlank_of_mem_trailingBlanks) _ (trim query),
    ← Nat.zero_add (leadingBlanks query).length,
    ← scanFrom_blanks_append (fun _ => isBlank_of_mem_leadingBlanks), leadingBlanks_append_trim]

end Lexeme

namespace Grammar

variable [PatternCompiler]

/-- A query that is accepted is accepted without the blanks around it, with the same tree. -/
theorem parse_trim_of_ok {query : Text} {node : Node} (h : Node.parse query = .ok node) :
    Node.parse (trim query) = .ok node := by
  rcases exists_derivation_of_parse h with
    ⟨lexemes, derivation, plain, hscan, hsymbols, hnesting, htree, rfl⟩
  rw [Lexeme.scan, Lexeme.scanFrom_trim] at hscan
  rcases (Lexeme.spells_of_scanFrom hscan).move 0 with ⟨moved, hmoved, hsame⟩
  rw [← hsame] at hsymbols hnesting
  rw [parse_of_derivation (Lexeme.scanFrom_of_spells hmoved) hsymbols hnesting, htree]
  rfl

/-!
## Reading without a tree
-/

/-- The passes over a query that stands at a position, except that no tree is built. -/
def verdictFrom (position : Nat) (query : Text) : Except QueryError Unit := do
  let lexemes ← Lexeme.scanFrom position query
  Structure.check lexemes
  compileWords (lexemes.map Lexeme.symbol)

theorem map_parse (query : Text) :
    (Node.parse query).map (fun _ => ()) = verdictFrom 0 query := by
  rw [Node.parse, verdictFrom, Lexeme.scan]
  cases Lexeme.scanFrom 0 query with
  | error error => rfl
  | ok lexemes =>
      change (do Structure.check lexemes; tree query.length lexemes).map (fun _ => ()) =
        (do Structure.check lexemes; compileWords (lexemes.map Lexeme.symbol))
      cases hcheck : Structure.check lexemes with
      | error error => rfl
      | ok _ =>
          rcases (check_eq_ok_iff_derivation lexemes).mp hcheck with ⟨⟨derivation, hsymbols⟩, _⟩
          change (tree query.length lexemes).map (fun _ => ()) =
            compileWords (lexemes.map Lexeme.symbol)
          rw [tree_eq query.length hsymbols, ← hsymbols, compileWords_symbols, Derivation.tree]
          cases derivation.operands <;> rfl

theorem parse_eq_error_iff {query : Text} {error : QueryError} :
    Node.parse query = .error error ↔ verdictFrom 0 query = .error error := by
  rw [← map_parse]
  cases Node.parse query with
  | error other =>
      constructor
      · intro h
        cases h
        rfl
      · intro h
        cases h
        rfl
  | ok node =>
      constructor
      · intro h
        cases h
      · intro h
        cases h

theorem verdictFrom_text (transcription : Transcription) (position : Nat) (query : Text)
    (h : ∀ lexemes, Lexeme.scanFrom position query = .ok lexemes →
      transcription.KeepsCompiling (lexemes.map Lexeme.symbol)) :
    verdictFrom (position + transcription.offset) (transcription.text query) =
      transcription.outcome id (verdictFrom position query) := by
  rw [verdictFrom, verdictFrom, transcription.scanFrom_text]
  cases hscan : Lexeme.scanFrom position query with
  | error error => rfl
  | ok lexemes =>
      have hsymbols : (lexemes.map transcription.lexeme).map Lexeme.symbol =
          (lexemes.map Lexeme.symbol).map transcription.symbol := by
        rw [List.map_map, List.map_map]
        rfl
      change (do
          Structure.check (lexemes.map transcription.lexeme)
          compileWords ((lexemes.map transcription.lexeme).map Lexeme.symbol)) =
        transcription.outcome id (do
          Structure.check lexemes
          compileWords (lexemes.map Lexeme.symbol))
      rw [transcription.check_lexemes, hsymbols]
      cases Structure.check lexemes with
      | error error => rfl
      | ok _ => exact transcription.compileWords_symbols (h lexemes hscan)

/-- Blanks around a query move the error and do nothing else. -/
theorem verdictFrom_trim (query : Text) :
    verdictFrom 0 query =
      (Transcription.movedBy (leadingBlanks query).length).outcome id
        (verdictFrom 0 (trim query)) := by
  have hmoved := verdictFrom_text (.movedBy (leadingBlanks query).length) 0 (trim query)
    fun _ _ => Transcription.keepsCompiling_movedBy _ _
  rw [← hmoved, Transcription.text_movedBy, verdictFrom, verdictFrom, Lexeme.scanFrom_trim,
    Nat.zero_add]
  rfl

end Grammar
end PaperFilter
