import PaperFilter.Proofs.Document.Titles
import PaperFilter.Proofs.Query.Evaluation
import PaperFilter.Proofs.Query.Rendering
import PaperFilter.Proofs.Query.Wildcard
import PaperFilter.Query

/-!
# Queries of one word

The query of a word asks whether the word matches one of the tokens of a text.  No character that a
query can spell separates tokens or cuts them, so that a word between delimiters is a token of the
text it stands in, stars and all.  And every word matches itself.
-/

namespace PaperFilter
namespace Grammar

theorem matchesExpression_word [PatternCompiler] {term : Term} (hword : IsWord term.text)
    (hkeyword : ∀ keyword : Keyword, term.text.map Char.toLower ≠ keyword.text)
    (hcompiles : Compiles term.text) (text : Text) :
    matchesExpression text term.text = .ok (term.wildcard.matchesAny (tokenize text)) := by
  rw [matchesExpression, Query.parse, Node.parse_text term hword hkeyword hcompiles]
  rfl

theorem matchesExpression_word_of_no_star [PatternCompiler] {term : Term} (hword : IsWord term.text)
    (hkeyword : ∀ keyword : Keyword, term.text.map Char.toLower ≠ keyword.text)
    (hstar : '*' ∉ term.text) (text : Text) :
    matchesExpression text term.text = .ok (decide (term.text ∈ tokenize text)) := by
  rw [matchesExpression_word hword hkeyword (compiles_of_no_star hstar)]
  apply congrArg Except.ok
  rw [Bool.eq_iff_iff, decide_eq_true_iff]
  exact Node.eval_word_of_no_star (Context.ofText text) hstar

/--
A word that compiles finds itself in every text where it has nothing, or a delimiter, on each side.
The stars of the query stand for the stars of the text there.  Without stars it finds the texts that
it is a token of, and no others.
-/
theorem matchesExpression_own_text [PatternCompiler] {word : Text} (hword : IsWord word)
    (hkeyword : ∀ keyword : Keyword, word.map Char.toLower ≠ keyword.text)
    (hcompiles : Compiles word) :
    (∀ front behind : Text, front.getLast?.all Token.isDelimiter = true →
      behind.head?.all Token.isDelimiter = true →
        matchesExpression (front ++ word ++ behind) word = .ok true) ∧
    ('*' ∉ word → ∀ text, matchesExpression text word = .ok (decide (word ∈ tokenize text))) := by
  constructor
  · intro front behind hfront hbehind
    have hmem := hword.mem_tokenize hfront hbehind
    have hself := Wildcard.matchesToken_self word
    rw [← List.append_assoc] at hmem
    rw [@matchesExpression_word _ ⟨word⟩ hword hkeyword hcompiles]
    exact congrArg Except.ok (List.any_eq_true.mpr ⟨word, hmem, hself⟩)
  · exact @matchesExpression_word_of_no_star _ ⟨word⟩ hword hkeyword

theorem matchesExpression_own_text_starred :
    letI := PatternCompiler.unlimited
    matchesExpression ("a.b, ".toList ++ "*н**not*".toList ++ "!".toList) "*н**not*".toList =
        .ok true ∧
      matchesExpression "nota, no".toList "nots".toList = .ok false := by
  let _ := PatternCompiler.unlimited
  have hword : IsWord "*н**not*".toList :=
    ⟨List.cons_ne_nil _ _, List.all_eq_true.mp (by decide)⟩
  have hkeyword : ∀ keyword : Keyword, "*н**not*".toList.map Char.toLower ≠ keyword.text := by
    intro keyword
    cases keyword <;> decide
  have hword' : IsWord "nots".toList := ⟨List.cons_ne_nil _ _, List.all_eq_true.mp (by decide)⟩
  have hkeyword' : ∀ keyword : Keyword, "nots".toList.map Char.toLower ≠ keyword.text := by
    intro keyword
    cases keyword <;> decide
  constructor
  · exact (matchesExpression_own_text hword hkeyword (compiles_unlimited _)).left "a.b, ".toList
      ['!'] rfl rfl
  · rw [(matchesExpression_own_text hword' hkeyword' (compiles_unlimited _)).right (by decide)]
    rfl

end Grammar
end PaperFilter
