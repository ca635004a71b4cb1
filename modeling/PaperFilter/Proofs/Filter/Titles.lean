import PaperFilter.Filter
import PaperFilter.Proofs.Document.Titles
import PaperFilter.Proofs.Query.Evaluation
import PaperFilter.Proofs.Query.Leaves
import PaperFilter.Proofs.Query.LetterCase
import PaperFilter.Proofs.Query.Rendering
import PaperFilter.Proofs.Filter.Expression

/-!
# Titles as queries

The settings that are there by default read the title of a document, and fold the query to the
lowercase that the title is in.  A word of a title and a phrase of such words find the title that
they are taken from.  A word that stands as a title by itself finds that title exactly if all of its
characters are word characters; an enclosed letter is none and leaves only a space in the title.
-/

namespace PaperFilter

open Unicode

/-!
## What an accepted query is made of
-/

theorem isQueryText_cons {c : Char} {rest : Text} :
    IsQueryText (c :: rest) ↔
      (isQueryChar c = true ∨ isBlank c = true ∨ c = '(' ∨ c = ')' ∨ c = '"') ∧
        IsQueryText rest :=
  List.forall_mem_cons

theorem isQueryText_append {front rest : Text} :
    IsQueryText (front ++ rest) ↔ IsQueryText front ∧ IsQueryText rest :=
  List.forall_mem_append

namespace Lexeme

theorem SpellsPhrase.isQueryText {body : Text} {words : List Text} (h : SpellsPhrase body words) :
    IsQueryText body := by
  induction h with
  | nil => exact List.forall_mem_nil _
  | blank hblank _ ih => exact isQueryText_cons.mpr ⟨Or.inr (Or.inl hblank), ih⟩
  | word hword _ _ ih => exact isQueryText_append.mpr ⟨hword.isQueryText, ih⟩

theorem Spells.isQueryText {position : Nat} {text : Text} {lexemes : List Lexeme}
    (h : Spells position text lexemes) : IsQueryText text := by
  induction h with
  | nil position => exact List.forall_mem_nil _
  | blank hblank _ ih => exact isQueryText_cons.mpr ⟨Or.inr (Or.inl hblank), ih⟩
  | opening _ ih => exact isQueryText_cons.mpr ⟨by decide, ih⟩
  | closing _ ih => exact isQueryText_cons.mpr ⟨by decide, ih⟩
  | phrase hbody _ _ ih =>
      refine isQueryText_cons.mpr ⟨by decide, isQueryText_append.mpr ⟨hbody.isQueryText, ?_⟩⟩
      exact isQueryText_cons.mpr ⟨by decide, ih⟩
  | word hword _ _ ih => exact isQueryText_append.mpr ⟨hword.isQueryText, ih⟩

/-- Behind a word no word character follows. -/
theorem Spells.any_isWordChar {position : Nat} {text : Text} {lexemes : List Lexeme}
    (h : Spells position text lexemes) (hends : EndsWord text) :
    text.head?.any isWordChar = false := by
  cases h with
  | nil position => rfl
  | blank hblank _ => exact isWordChar_eq_false_of_isBlank hblank
  | opening _ => exact isWordChar_eq_false_of_mem_marks (by decide)
  | closing _ => exact isWordChar_eq_false_of_mem_marks (by decide)
  | phrase _ _ _ => exact isWordChar_eq_false_of_mem_marks (by decide)
  | @word _ word rest _ hword _ _ =>
      rcases hword with ⟨hne, hchars⟩
      cases word with
      | nil => exact absurd rfl hne
      | cons c letters =>
          have hquery := hends c rfl
          rw [hchars c List.mem_cons_self] at hquery
          cases hquery

/-- A word of a query is a run of its own if it is made of word characters. -/
theorem Spells.mem_runs {position : Nat} {text : Text} {lexemes : List Lexeme}
    (h : Spells position text lexemes) {word : Text} (hmem : .word word ∈ lexemes.map symbol)
    (hword : ∀ c ∈ word, isWordChar c = true) : word ∈ Text.runs isWordChar text := by
  induction h with
  | nil position => cases hmem
  | blank hblank _ ih =>
      rw [Text.runs_cons_of_not (isWordChar_eq_false_of_isBlank hblank)]
      exact ih hmem
  | opening _ ih =>
      rcases List.mem_cons.mp hmem with hcontra | hothers
      · cases hcontra
      · rw [Text.runs_cons_of_not (isWordChar_eq_false_of_mem_marks (by decide))]
        exact ih hothers
  | closing _ ih =>
      rcases List.mem_cons.mp hmem with hcontra | hothers
      · cases hcontra
      · rw [Text.runs_cons_of_not (isWordChar_eq_false_of_mem_marks (by decide))]
        exact ih hothers
  | @phrase position body rest words lexemes _ _ _ ih =>
      have hquote : isWordChar '"' = false := isWordChar_eq_false_of_mem_marks (by decide)
      have hclosing : ('"' :: rest).head?.any isWordChar = false := hquote
      rcases List.mem_cons.mp hmem with hcontra | hothers
      · cases hcontra
      · rw [Text.runs_cons_of_not hquote, Text.runs_append hclosing, Text.runs_cons_of_not hquote]
        exact List.mem_append_right _ (ih hothers)
  | @word position letters rest lexemes hletters hends hrest ih =>
      rw [Text.runs_append (hrest.any_isWordChar hends)]
      rcases List.mem_cons.mp hmem with hfirst | hothers
      · have hsame : word = letters := Symbol.eq_of_ofWord_eq_word hfirst.symm
        subst hsame
        rw [Text.runs_of_forall hletters.left hword]
        exact List.mem_cons_self
      · exact List.mem_append_right _ (ih hothers)

end Lexeme

namespace DocumentFilter

/-!
## The filter of an accepted query
-/

theorem exists_keep_iff (filter : DocumentFilter) (document : Document) :
    (∃ kept, filter.check document = .keep kept) ↔ filter.isMatch document = true := by
  rw [check]
  split
  · next hkept => exact ⟨fun _ => hkept, fun _ => ⟨_, rfl⟩⟩
  · next hdropped => exact ⟨nofun, fun hkept => absurd hkept hdropped⟩

section

variable [PatternCompiler]

/-- The filter that the default settings build from an expression keeps a document. -/
def Finds (expr : Text) (document : Document) : Prop :=
  ∃ filter kept, build expr .default = .ok filter ∧ filter.check document = .keep kept

theorem isQueryText_of_parse {query : Text} {node : Node} (h : Node.parse query = .ok node) :
    IsQueryText query := by
  rcases Grammar.exists_derivation_of_parse h with ⟨lexemes, _, _, hscan, _⟩
  exact (Lexeme.spells_of_scanFrom hscan).isQueryText

/-- By default an accepted query is evaluated in lowercase, if its words compile, on the title. -/
theorem build_of_parse {query : Text} {node : Node} (h : Node.parse query = .ok node)
    (hwords : node.lowercase.WordsCompile) :
    build query .default =
      .ok ⟨some ⟨lowercase (trim query), node.lowercase⟩, .title, true, {}⟩ := by
  have htrim := Grammar.parse_trim_of_ok h
  have hempty : Node.parse [] = .error .empty := by cbv
  have hne : trim query ≠ [] := by
    intro hnil
    rw [hnil, hempty] at htrim
    cases htrim
  have hexpression : Config.default.query.expression query = lowercase (trim query) := rfl
  rw [build_eq hne, hexpression,
    Grammar.parse_lowercase_of_ok (isQueryText_of_parse htrim) htrim hwords]
  rfl

theorem finds_iff {query : Text} {node : Node} (h : Node.parse query = .ok node)
    (hwords : node.lowercase.WordsCompile) (document : Document) :
    Finds query document ↔
      node.lowercase.eval (Context.ofText (Normal.ofTitle document.title)) = true := by
  have hkeep := exists_keep_iff ⟨some ⟨lowercase (trim query), node.lowercase⟩, .title, true, {}⟩
    document
  rw [Finds, build_of_parse h hwords]
  constructor
  · rintro ⟨filter, kept, hfilter, hkept⟩
    cases hfilter
    exact hkeep.mp ⟨kept, hkept⟩
  · intro heval
    rcases hkeep.mpr heval with ⟨kept, hkept⟩
    exact ⟨_, kept, rfl, hkept⟩

/-- A word without stars finds the titles that it is a token of, in lowercase. -/
theorem finds_word_iff {query : Text} {term : Term} (h : Node.parse query = .ok (.word term))
    (hstar : '*' ∉ term.text) (document : Document) :
    Finds query document ↔
      term.text.map lowerLetter ∈ tokenize (Normal.ofTitle document.title) := by
  have hword := (Grammar.isCanonical_of_parse h).of_word.left
  have hlower : (term.respell lowercase).text = term.text.map lowerLetter :=
    hword.lowercase_eq_map
  have hstarLower : '*' ∉ (term.respell lowercase).text := by
    rw [hlower, List.mem_map]
    rintro ⟨c, hc, hlowerStar⟩
    exact hstar (lowerLetter_eq_star_iff.mp hlowerStar ▸ hc)
  have hnode : (Node.word term).lowercase = .word (term.respell lowercase) := rfl
  have hwords : (Node.word term).lowercase.WordsCompile := by
    rw [hnode, Node.wordsCompile_word_iff]
    exact Grammar.compiles_of_no_star hstarLower
  rw [finds_iff h hwords, hnode, Node.eval_word_of_no_star _ hstarLower, hlower]
  rfl

/-!
## A word as a title
-/

end

/--
A word without stars, with whatever blanks and parentheses the query has around it, finds the title
that reads like the query exactly if all characters of the word are word characters.
-/
theorem finds_own_title_iff [PatternCompiler] {query : Text} {term : Term}
    (h : Node.parse query = .ok (.word term)) (hstar : '*' ∉ term.text) {document : Document}
    (htitle : document.title = query) :
    Finds query document ↔ ∀ c ∈ term.text, isWordChar c = true := by
  rcases Grammar.leaves_of_parse h with ⟨lexemes, hscan, hleaves⟩
  have hspells := Lexeme.spells_of_scanFrom hscan
  have hmem : .word term.text ∈ lexemes.map Lexeme.symbol := by
    have hleaf : .word term.text ∈ (lexemes.map Lexeme.symbol).filter Symbol.isLeaf := by
      rw [hleaves, Node.leaves]
      exact List.mem_cons_self
    exact List.mem_of_mem_filter hleaf
  have hword := (Grammar.isCanonical_of_parse h).of_word.left
  rw [finds_word_iff h hstar, htitle]
  constructor
  · intro htoken c hc
    have hlower : lowerLetter c ∈ Normal.ofTitle query :=
      mem_of_mem_tokenize htoken (List.mem_map_of_mem hc)
    rcases Normal.eq_space_or_isWordChar_of_mem_ofTitle hlower with hspace | hkept
    · have hquery := isQueryChar_lowerLetter (hword.right c hc)
      rw [hspace] at hquery
      cases hquery
    · rwa [isWordChar_lowerLetter (hword.right c hc)] at hkept
  · intro hchars
    exact Normal.mem_tokenize_ofTitle (hspells.mem_runs hmem hchars) hword.right

theorem finds_own_title_iff_parenthesized :
    letI := PatternCompiler.unlimited
    Finds "(Видео)".toList (.ofTexts "(Видео)".toList []) := by
  let _ := PatternCompiler.unlimited
  have h : Node.parse "(Видео)".toList = .ok (.word ⟨"Видео".toList⟩) := by cbv
  exact (finds_own_title_iff h (by decide) rfl).mpr (List.all_eq_true.mp (by decide +kernel))

/-- An enclosed letter is accepted as a word and does not find the title that it is. -/
theorem not_finds_enclosed :
    letI := PatternCompiler.unlimited
    Node.parse "㈱".toList = .ok (.word ⟨"㈱".toList⟩) ∧
      ¬ Finds "㈱".toList (.ofTexts "㈱".toList []) := by
  let _ := PatternCompiler.unlimited
  have h : Node.parse "㈱".toList = .ok (.word ⟨"㈱".toList⟩) := by cbv
  have hsame : lowerLetter '㈱' = '㈱' := by decide +kernel
  have hoccurs : '㈱' ∈ "㈱".toList.map lowerLetter := List.mem_map.mpr ⟨'㈱', by decide, hsame⟩
  refine ⟨h, ?_⟩
  rw [finds_word_iff h (by decide)]
  intro htoken
  rcases Normal.eq_space_or_isWordChar_of_mem_ofTitle (mem_of_mem_tokenize htoken hoccurs) with
    hspace | hword
  · exact absurd hspace (by decide)
  · exact absurd hword (by decide +kernel)

/-!
## Words of a title
-/

section

variable [PatternCompiler] {document : Document}

theorem finds_run {run : Text} (hrun : run ∈ Text.runs isWordChar document.title)
    (hquery : ∀ c ∈ run, isQueryChar c = true)
    (hkeyword : ∀ keyword : Keyword, run.map Char.toLower ≠ keyword.text) :
    Finds run document := by
  rcases Text.of_mem_runs hrun with ⟨hne, hchars⟩
  have hstar : '*' ∉ run := by
    intro hmem
    have hword := (hchars '*' hmem).left
    rw [isWordChar_eq_false_of_mem_marks (by decide)] at hword
    cases hword
  have hparse := Node.parse_text ⟨run⟩ ⟨hne, hquery⟩ hkeyword (Grammar.compiles_of_no_star hstar)
  exact (finds_word_iff hparse hstar document).mpr (Normal.mem_tokenize_ofTitle hrun hquery)

theorem finds_phrase {runs : List Text} (hne : runs ≠ [])
    (hruns : runs <:+: Text.runs isWordChar document.title)
    (hquery : ∀ run ∈ runs, ∀ c ∈ run, isQueryChar c = true) :
    Finds ('"' :: (Text.joinWith [' '] runs ++ ['"'])) document := by
  have hwords : ∀ run ∈ runs, IsWord run :=
    fun run hrun => ⟨(Text.of_mem_runs (hruns.mem hrun)).left, hquery run hrun⟩
  have hparse : Node.parse (Node.phrase runs).render = .ok (.phrase runs) :=
    (Node.IsCanonical.phrase runs hne hwords).parse_leaf
      (Node.wordsCompile_phrase runs) rfl rfl
  have hlower : Text.joinWith [' '] (runs.map lowercase) =
      (Text.joinWith [' '] runs).map lowerLetter := by
    have hspace : [' '].map lowerLetter = [' '] :=
      congrArg (fun c => [c]) (lowerLetter_of_isBlank rfl)
    rw [Text.map_joinWith, hspace]
    exact congrArg (Text.joinWith [' ']) (List.map_congr_left fun run hrun =>
      (hwords run hrun).lowercase_eq_map)
  refine (finds_iff hparse (Node.wordsCompile_phrase _) document).mpr ?_
  rcases Normal.exists_ofTitle_of_infix hne hruns hquery with ⟨front, behind, htitle, _⟩
  have hnode : (Node.phrase runs).lowercase = .phrase (runs.map lowercase) := rfl
  rw [hnode, Node.eval_phrase, hlower, htitle]
  exact Text.occursIn_append _ front behind

end

/--
By default a document is found by each word of its title that a query can spell, other than the
keywords, and by each quoted phrase of such words that follow one another in the title, whatever
separates them there.
-/
theorem finds_title [PatternCompiler] (document : Document) :
    (∀ run ∈ Text.runs isWordChar document.title, (∀ c ∈ run, isQueryChar c = true) →
      (∀ keyword : Keyword, run.map Char.toLower ≠ keyword.text) → Finds run document) ∧
    ∀ runs, runs ≠ [] → runs <:+: Text.runs isWordChar document.title →
      (∀ run ∈ runs, ∀ c ∈ run, isQueryChar c = true) →
        Finds ('"' :: (Text.joinWith [' '] runs ++ ['"'])) document :=
  ⟨fun _ hrun hquery hkeyword => finds_run hrun hquery hkeyword,
    fun _ hne hruns hquery => finds_phrase hne hruns hquery⟩

theorem finds_title_punctuated :
    letI := PatternCompiler.unlimited
    Finds "видео".toList (.ofTexts "Nets--Not (видео): a_b".toList []) ∧
      Finds "\"Not видео\"".toList (.ofTexts "Nets--Not (видео): a_b".toList []) := by
  let _ := PatternCompiler.unlimited
  have hruns : Text.runs isWordChar "Nets--Not (видео): a_b".toList =
      ["Nets".toList] ++ ["Not".toList, "видео".toList] ++ ["a_b".toList] := by
    decide +kernel
  have hall : ["Not".toList, "видео".toList].all (fun run => run.all isQueryChar) = true := by
    decide
  have hquery : ∀ run ∈ ["Not".toList, "видео".toList], ∀ c ∈ run, isQueryChar c = true :=
    fun run hrun => List.all_eq_true.mp (List.all_eq_true.mp hall run hrun)
  have hfinds := finds_title (.ofTexts "Nets--Not (видео): a_b".toList [])
  constructor
  · refine hfinds.left _ ?_ (hquery _ (by decide)) ?_
    · exact hruns ▸ (by decide)
    · intro keyword
      cases keyword <;> decide
  · exact hfinds.right _ (List.cons_ne_nil _ _) ⟨_, _, hruns.symm⟩ hquery

end DocumentFilter

end PaperFilter
