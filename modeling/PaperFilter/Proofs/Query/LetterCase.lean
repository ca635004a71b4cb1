import Mathlib
import PaperFilter.Proofs.Query.Leaves
import PaperFilter.Proofs.Query.Lowercase
import PaperFilter.Proofs.Query.Refusal

/-!
# The tree of a query in lowercase

A tree is respelled when each of its words is changed and nothing else.  A transcribed query is
parsed like the query, and its tree is the tree of the query, respelled.  Lowercase transcribes
every text over the alphabet of queries.
-/

namespace PaperFilter

open Unicode

/-!
## Trees with other words
-/

def Term.respell (word : Text → Text) (term : Term) : Term :=
  ⟨word term.text⟩

namespace Node

mutual

/-- The tree with each word changed, those of its phrases included. -/
def respell (word : Text → Text) : Node → Node
  | .and children => .and (respellAll word children)
  | .or children => .or (respellAll word children)
  | .not child => .not (respell word child)
  | .phrase words => .phrase (words.map word)
  | .word term => .word (term.respell word)

def respellAll (word : Text → Text) : List Node → List Node
  | [] => []
  | child :: rest => respell word child :: respellAll word rest

end

variable (word : Text → Text)

theorem respellAll_eq_map (children : List Node) :
    respellAll word children = children.map (respell word) := by
  induction children with
  | nil => rfl
  | cons child rest ih => rw [respellAll, ih, List.map_cons]

theorem respell_node (kind : Kind) (children : List Node) :
    (kind.node children).respell word = kind.node (children.map (respell word)) := by
  cases kind <;> simp only [Kind.node, respell, respellAll_eq_map]

theorem respell_not (child : Node) :
    respell word (.not child) = .not (child.respell word) := by
  rw [respell]

theorem parts_respell (kind : Kind) (child : Node) :
    kind.parts (child.respell word) = (kind.parts child).map (respell word) := by
  by_cases hgroup : ∃ inner, child = kind.node inner
  · rcases hgroup with ⟨inner, rfl⟩
    rw [respell_node, Kind.parts_node, Kind.parts_node]
  · have hne : ∀ inner, child ≠ kind.node inner := fun inner h => hgroup ⟨inner, h⟩
    have hrespelled : ∀ inner, child.respell word ≠ kind.node inner := by
      intro inner h
      cases kind <;> cases child <;> simp_all [respell, Kind.node]
    rw [Kind.parts_of_ne hne, Kind.parts_of_ne hrespelled, List.map_singleton]

theorem join_respell (kind : Kind) (children : List Node) :
    kind.join (children.map (respell word)) = (kind.join children).respell word := by
  have hparts : (children.map (respell word)).flatMap kind.parts =
      (children.flatMap kind.parts).map (respell word) := by
    simp only [List.flatMap_map, List.map_flatMap, parts_respell]
  by_cases honly : ∃ only, children.flatMap kind.parts = [only]
  · rcases honly with ⟨only, honly⟩
    rw [honly] at hparts
    rw [Kind.join_eq_of_parts hparts, Kind.join_eq_of_parts honly]
  · have hne : ∀ only, children.flatMap kind.parts ≠ [only] := fun only h => honly ⟨only, h⟩
    have hneMap : ∀ only, (children.map (respell word)).flatMap kind.parts ≠ [only] := by
      intro only h
      rcases List.map_eq_singleton_iff.mp (hparts.symm.trans h) with ⟨plain, hplain, _⟩
      exact hne plain hplain
    rw [Kind.join_eq_node hneMap, Kind.join_eq_node hne, respell_node, hparts]

theorem normal_respell (node : Node) :
    (node.respell word).normal = node.normal.respell word := by
  induction node using induction_of with
  | group kind children ih =>
      have hchildren : (children.map (respell word)).map normal =
          (children.map normal).map (respell word) := by
        rw [List.map_map, List.map_map]
        exact List.map_congr_left ih
      rw [respell_node, normal_node, normal_node, hchildren, join_respell]
  | not child ih => rw [respell_not, normal, normal, respell_not, ih]
  | phrase words => rfl
  | word term => rfl

theorem mem_leaves_respell {node : Node} {text : Text} (h : .word text ∈ node.leaves) :
    .word (word text) ∈ (node.respell word).leaves := by
  induction node using induction_of with
  | group kind children ih =>
      rw [leaves_node, List.mem_flatMap] at h
      rcases h with ⟨child, hchild, hmem⟩
      rw [respell_node, leaves_node, List.flatMap_map, List.mem_flatMap]
      exact ⟨child, hchild, ih child hchild hmem⟩
  | not child ih =>
      rw [leaves_not] at h
      rw [respell_not, leaves_not]
      exact ih h
  | phrase words => cases List.mem_singleton.mp h
  | word term =>
      cases List.mem_singleton.mp h
      exact List.mem_singleton.mpr rfl

/-- A canonical tree holds nothing but words that a query can hold. -/
theorem IsCanonical.respell_eq {node : Node} (h : node.IsCanonical) {first second : Text → Text}
    (hwords : ∀ word, IsWord word → first word = second word) :
    node.respell first = node.respell second := by
  induction h with
  | group kind children _ _ _ ih =>
      rw [respell_node, respell_node, List.map_congr_left ih]
  | not child _ ih => rw [respell_not, respell_not, ih]
  | phrase words _ hphrase =>
      exact congrArg Node.phrase (List.map_congr_left fun word h => hwords word (hphrase word h))
  | word term hword _ =>
      have hterm : term.respell first = term.respell second := by
        simp only [Term.respell, hwords term.text hword]
      rw [respell, respell, hterm]

end Node

/-!
## Transcribed trees
-/

namespace Grammar.Derivation

/-- The derivation with each word changed. -/
def respell (word : Text → Text) : {rule : Rule} → Derivation rule → Derivation rule
  | _, .conjunction only => .conjunction (only.respell word)
  | _, .or first others => .or (first.respell word) (others.respell word)
  | _, .negation only => .negation (only.respell word)
  | _, .and first others => .and (first.respell word) (others.respell word)
  | _, .beside first others => .beside (first.respell word) (others.respell word)
  | _, .not negated => .not (negated.respell word)
  | _, .group only => .group (only.respell word)
  | _, .parentheses inner => .parentheses (inner.respell word)
  | _, .phrase words => .phrase (words.map word)
  | _, .word text => .word (word text)

end Grammar.Derivation

namespace Transcription

variable (transcription : Transcription)

def node (node : Node) : Node :=
  node.respell transcription.text

theorem symbols_respell {rule : Grammar.Rule} (derivation : Grammar.Derivation rule) :
    (derivation.respell transcription.text).symbols =
      derivation.symbols.map transcription.symbol := by
  induction derivation <;>
    simp_all [Grammar.Derivation.respell, Transcription.symbol]

section

variable [PatternCompiler] {rule : Grammar.Rule}

theorem outcome_append {α β : Type} (value : α → β) (front behind : Except QueryError (List α)) :
    (do
      let values ← transcription.outcome (List.map value) front
      let others ← transcription.outcome (List.map value) behind
      return values ++ others) =
    transcription.outcome (List.map value) (do
      let values ← front
      let others ← behind
      return values ++ others) := by
  cases front with
  | error error => rfl
  | ok values =>
      cases behind with
      | error error => rfl
      | ok others => exact congrArg Except.ok List.map_append.symm

theorem operands_respell {derivation : Grammar.Derivation rule}
    (h : transcription.KeepsCompiling derivation.symbols) :
    (derivation.respell transcription.text).operands =
      transcription.outcome (List.map transcription.node) derivation.operands := by
  have hgroup : ∀ (kind : Node.Kind) (plains : List Node),
      transcription.node (kind.node plains) = kind.node (plains.map transcription.node) :=
    Node.respell_node transcription.text
  induction derivation with
  | conjunction only ih =>
      rw [Grammar.Derivation.respell, Grammar.Derivation.operands_conjunction, ih h,
        Grammar.Derivation.operands_conjunction]
      cases only.operands with
      | error error => rfl
      | ok plains => exact congrArg (fun node => Except.ok [node]) (hgroup .and plains).symm
  | or first others ihFirst ihOthers =>
      rw [Grammar.Derivation.respell, Grammar.Derivation.operands_or, ihFirst (h.mono (by simp)),
        ihOthers (h.mono (by simp)), Grammar.Derivation.operands_or]
      cases first.operands with
      | error error => rfl
      | ok plains =>
          cases others.operands with
          | error error => rfl
          | ok others =>
              exact congrArg (fun node => Except.ok (node :: others.map transcription.node))
                (hgroup .and plains).symm
  | negation only ih => exact ih h
  | and first others ihFirst ihOthers =>
      rw [Grammar.Derivation.respell, Grammar.Derivation.operands_and,
        ihFirst (h.mono (by simp)), ihOthers (h.mono (by simp))]
      exact transcription.outcome_append _ first.operands others.operands
  | beside first others ihFirst ihOthers =>
      rw [Grammar.Derivation.respell, Grammar.Derivation.operands_beside,
        Grammar.Derivation.operands_and, ihFirst (h.mono (by simp)), ihOthers (h.mono (by simp))]
      exact transcription.outcome_append _ first.operands others.operands
  | not negated ih =>
      rw [Grammar.Derivation.respell, Grammar.Derivation.operands_not, ih (h.mono (by simp)),
        Grammar.Derivation.operands_not]
      cases negated.operands with
      | error error => rfl
      | ok plains =>
          refine congrArg Except.ok ?_
          rw [List.map_map, List.map_map]
          exact List.map_congr_left fun plain _ =>
            (Node.respell_not transcription.text plain).symm
  | group only ih => exact ih h
  | parentheses inner ih =>
      rw [Grammar.Derivation.respell, Grammar.Derivation.operands_parentheses,
        ih (h.mono (by simp)),
        Grammar.Derivation.operands_parentheses]
      cases inner.operands with
      | error error => rfl
      | ok plains => exact congrArg (fun node => Except.ok [node]) (hgroup .or plains).symm
  | phrase words => rfl
  | word text =>
      rw [Grammar.Derivation.respell, Grammar.Derivation.operands_word,
        transcription.ofText_text (h text List.mem_cons_self), Grammar.Derivation.operands_word]
      cases Term.ofText text <;> rfl

theorem tree_respell {derivation : Grammar.Derivation .disjunction}
    (h : transcription.KeepsCompiling derivation.symbols) :
    (derivation.respell transcription.text).tree.map Node.normal =
      transcription.outcome transcription.node (derivation.tree.map Node.normal) := by
  rw [Grammar.Derivation.tree, transcription.operands_respell h, Grammar.Derivation.tree]
  cases derivation.operands with
  | error error => rfl
  | ok plains =>
      refine congrArg Except.ok ?_
      have hgroup : Node.or (plains.map transcription.node) = transcription.node (.or plains) :=
        (Node.respell_node transcription.text .or plains).symm
      rw [hgroup]
      exact Node.normal_respell transcription.text (.or plains)

/-- A query that is transcribed in place has the same tree, transcribed, or the same error. -/
theorem parse_text (hplace : transcription.offset = 0) {query : Text}
    (h : ∀ lexemes, Lexeme.scanFrom 0 query = .ok lexemes →
      transcription.KeepsCompiling (lexemes.map Lexeme.symbol)) :
    Node.parse (transcription.text query) =
      transcription.outcome transcription.node (Node.parse query) := by
  have hscan := transcription.scanFrom_text 0 query
  rw [hplace] at hscan
  rw [Node.parse, Node.parse, Lexeme.scan, Lexeme.scan, hscan, length_text]
  cases hscan' : Lexeme.scanFrom 0 query with
  | error error => rfl
  | ok lexemes =>
      have hkeeps := h lexemes hscan'
      change (do
          Structure.check (lexemes.map transcription.lexeme)
          Grammar.tree query.length (lexemes.map transcription.lexeme)) =
        transcription.outcome transcription.node (do
          Structure.check lexemes
          Grammar.tree query.length lexemes)
      rw [check_lexemes]
      cases hcheck : Structure.check lexemes with
      | error error => rfl
      | ok _ =>
          rcases (Grammar.check_eq_ok_iff_derivation lexemes).mp hcheck with
            ⟨⟨derivation, hsymbols⟩, _⟩
          have htranscribed : (derivation.respell transcription.text).symbols =
              (lexemes.map transcription.lexeme).map Lexeme.symbol := by
            rw [symbols_respell, hsymbols, List.map_map, List.map_map]
            rfl
          change Grammar.tree query.length (lexemes.map transcription.lexeme) =
            transcription.outcome transcription.node (Grammar.tree query.length lexemes)
          rw [← hsymbols] at hkeeps
          rw [Grammar.tree_eq _ htranscribed, Grammar.tree_eq _ hsymbols,
            transcription.tree_respell hkeeps]

end

end Transcription

/-!
## Trees and errors in lowercase
-/

/-- The tree with all of its words in lowercase. -/
def Node.lowercase (node : Node) : Node :=
  node.respell Unicode.lowercase

/-- The error with the word that it names in lowercase, and the reason that this is refused for. -/
def QueryError.lowercase [PatternCompiler] : QueryError → QueryError
  | .invalidWildcard word reason =>
      .invalidWildcard (Unicode.lowercase word)
        ((Wildcard.ofWord (Unicode.lowercase word)).refusal?.getD reason)
  | other => other

namespace Grammar

section

variable [PatternCompiler]

/-- The word that a query is refused for is one that a query can hold. -/
theorem isWord_of_parse_eq_error {query word reason : Text}
    (h : Node.parse query = .error (.invalidWildcard word reason)) : IsWord word := by
  rw [parse_eq_error_iff, verdictFrom] at h
  cases hscan : Lexeme.scanFrom 0 query with
  | error error =>
      rw [hscan] at h
      cases h
      exact absurd (Lexeme.isScanError_of_scanFrom hscan) id
  | ok lexemes =>
      rw [hscan] at h
      change (do Structure.check lexemes; compileWords (lexemes.map Lexeme.symbol)) = _ at h
      cases hcheck : Structure.check lexemes with
      | error error =>
          rw [hcheck] at h
          cases h
          exact absurd (Structure.isStructureError_of_check hcheck) id
      | ok _ =>
          rw [hcheck] at h
          rcases compileWords_eq_error h with ⟨before, text, after, hsymbols, hterm, _⟩
          rcases ofText_eq_error hterm with ⟨_, herror⟩
          cases herror
          have hmem : Symbol.word word ∈ lexemes.map Lexeme.symbol := by
            rw [hsymbols]
            exact List.mem_append_right before List.mem_cons_self
          exact Lexeme.isWord_of_scanFrom hscan hmem

theorem error_lowercase {query : Text} {error : QueryError}
    (h : Node.parse query = .error error) :
    Transcription.lowercase.error error = error.lowercase := by
  cases error with
  | unexpectedCharacter ch position =>
      have hquery : isQueryChar ch = false := by
        rcases parse_eq_error h with hscan | hstructure | ⟨_, _, hword⟩
        · exact hscan
        · exact absurd hstructure id
        · cases hword
      have hchar : Transcription.lowercase.change ch = ch :=
        if_neg (Bool.eq_false_iff.mp hquery)
      rw [Transcription.error, hchar]
      rfl
  | invalidWildcard word reason =>
      rw [Transcription.error, ← (isWord_of_parse_eq_error h).lowercase_eq]
      rfl
  | _ => rfl

theorem parse_lowercase_of_keepsCompiling {query : Text} (h : IsQueryText query)
    (hkeeps : ∀ lexemes, Lexeme.scanFrom 0 query = .ok lexemes →
      Transcription.lowercase.KeepsCompiling (lexemes.map Lexeme.symbol)) :
    Node.parse (Unicode.lowercase query) =
      match Node.parse query with
      | .ok node => .ok node.lowercase
      | .error error => .error error.lowercase := by
  rw [h.lowercase_eq, Transcription.lowercase.parse_text rfl hkeeps]
  cases hparse : Node.parse query with
  | error error => exact congrArg Except.error (error_lowercase hparse)
  | ok node =>
      refine congrArg Except.ok ?_
      exact (isCanonical_of_parse hparse).respell_eq fun word hword => hword.lowercase_eq.symm

/-- For a query that has a tree it is enough that the words of the tree compile in lowercase. -/
theorem parse_lowercase_of_ok {query : Text} {node : Node} (h : IsQueryText query)
    (hparse : Node.parse query = .ok node)
    (hwords : node.lowercase.WordsCompile) :
    Node.parse (Unicode.lowercase query) = .ok node.lowercase := by
  rw [parse_lowercase_of_keepsCompiling h, hparse]
  intro lexemes hscan word hmem
  rcases leaves_of_parse hparse with ⟨lexemes', hscan', hleaves⟩
  rw [Lexeme.scan, hscan] at hscan'
  cases hscan'
  have hleaf : .word word ∈ node.leaves := by
    rw [← hleaves]
    exact List.mem_filter.mpr ⟨hmem, rfl⟩
  rw [← (Lexeme.isWord_of_scanFrom hscan hmem).lowercase_eq]
  exact iff_of_true (hwords _ (Node.mem_leaves_respell Unicode.lowercase hleaf))
    (wordsCompile_of_parse hparse word hleaf)

end

/--
A text over the alphabet of queries can be read as a query in lowercase exactly if it can be read as
it is, where letter case does not decide whether a word compiles.  Its tree is then the same but for
its words, which are in lowercase, and if it cannot be read the error is the same but for a word
that it names.
-/
theorem parse_lowercase [PatternCompiler] (hcase : PatternCompiler.IgnoresCase) {query : Text}
    (h : IsQueryText query) :
    Node.parse (Unicode.lowercase query) =
      match Node.parse query with
      | .ok node => .ok node.lowercase
      | .error error => .error error.lowercase :=
  parse_lowercase_of_keepsCompiling h fun _ hscan =>
    Transcription.keepsCompiling_lowercase hcase hscan

theorem parse_lowercase_cyrillic :
    letI := PatternCompiler.unlimited
    IsQueryText "Ж AND (\"Not ВИДЕО\" or not A*)".toList ∧
      Node.parse (Unicode.lowercase "Ж AND (\"Not ВИДЕО\" or not A*)".toList) =
        .ok (.and [.word ⟨"ж".toList⟩,
          .or [.phrase ["not".toList, "видео".toList], .not (.word ⟨"a*".toList⟩)]]) := by
  let _ := PatternCompiler.unlimited
  have halphabet : IsQueryText "Ж AND (\"Not ВИДЕО\" or not A*)".toList := by decide
  have h : Node.parse "Ж AND (\"Not ВИДЕО\" or not A*)".toList =
      .ok (.and [.word ⟨"Ж".toList⟩,
        .or [.phrase ["Not".toList, "ВИДЕО".toList], .not (.word ⟨"A*".toList⟩)]]) := by cbv
  refine ⟨halphabet, ?_⟩
  rw [parse_lowercase PatternCompiler.ignoresCase_unlimited halphabet, h]
  cbv

end Grammar
end PaperFilter
