import PaperFilter.Document.Normal
import PaperFilter.Proofs.Query.Lowercase
import PaperFilter.Proofs.Text.Runs
import PaperFilter.Proofs.Token

/-!
# Titles in normal form

Words of a title that follow one another stand in its normal form in lowercase, with one space
between each two whatever separates them in the title, and with a space or an end of the text on
both sides.  So each of them is a token of its own there, if a query can spell it.
-/

namespace PaperFilter

open Unicode

/-- Nothing that a query spells in a word cuts a text into tokens. -/
theorem isDelimiter_eq_false_of_isQueryChar {c : Char} (h : isQueryChar c = true) :
    Token.isDelimiter c = false := by
  rcases ascii_or_script_of_isQueryChar h with hascii | hscript
  · revert h
    exact forall_ascii (P := fun c => isQueryChar c = true → Token.isDelimiter c = false)
      (by decide) hascii
  · have hlow := le_of_script hscript
    rw [Token.isDelimiter, isBlank_eq_false_of_isQueryChar h, Token.isInformationSeparator,
      Token.isAsciiPunctuation]
    simp
    omega

/-- A word that has nothing, or a delimiter, on each side of it in a text is one of its tokens. -/
theorem IsWord.mem_tokenize {word front behind : Text} (h : IsWord word)
    (hfront : front.getLast?.all Token.isDelimiter = true)
    (hbehind : behind.head?.all Token.isDelimiter = true) :
    word ∈ tokenize (front ++ (word ++ behind)) := by
  apply PaperFilter.mem_tokenize h.left _ hfront hbehind
  intro c hc
  have hquery := h.right c hc
  exact ⟨isDelimiter_eq_false_of_isQueryChar hquery, Lexeme.ne_of_isQueryChar hquery rfl⟩

theorem isWordChar_eq_false_of_mem_marks {mark : Char} (h : mark ∈ marks) :
    isWordChar mark = false := by
  have hmarks : marks.all (fun mark => isWordChar mark = false) = true := by decide +kernel
  exact of_decide_eq_true (List.all_eq_true.mp hmarks mark h)

namespace Normal

/-- Lowercase has no say in where a text has spaces. -/
theorem exists_lowercase_between {letters front behind : Text}
    (hletters : ∀ c ∈ letters, c ≠ capitalSigma ∧ c ≠ '\u0130')
    (hfront : Text.EndsApart [' '] front) (hbehind : Text.BeginsApart [' '] behind) :
    ∃ before after, lowercase (front ++ (letters ++ behind)) =
        before ++ (letters.map lowerLetter ++ after) ∧
      Text.EndsApart [' '] before ∧ Text.BeginsApart [' '] after := by
  have hbetween : ∃ after, lowercase (letters ++ behind) = letters.map lowerLetter ++ after ∧
      Text.BeginsApart [' '] after := by
    rcases hbehind with rfl | ⟨rest, rfl⟩
    · refine ⟨[], ?_, Or.inl rfl⟩
      rw [List.append_nil, List.append_nil, lowercase_eq_map hletters]
    · refine ⟨' ' :: lowercase rest, ?_, Or.inr (List.prefix_append [' '] _)⟩
      rw [List.singleton_append, lowercase_append_space, lowercase_eq_map hletters]
  rcases hbetween with ⟨after, hlower, hapart⟩
  rcases hfront with rfl | ⟨start, rfl⟩
  · exact ⟨[], after, hlower, Or.inl rfl, hapart⟩
  · refine ⟨lowercase start ++ [' '], after, ?_, Or.inr (List.suffix_append _ [' ']), hapart⟩
    rw [List.append_assoc, List.singleton_append, lowercase_append_space, hlower,
      List.append_assoc, List.singleton_append]

/-- A title in normal form is its words in lowercase, with one space between each two and perhaps at
the ends. -/
theorem exists_ofTitle_eq (title : Text) :
    ∃ before after, ofTitle title =
        before ++ (lowercase (Text.joinWith [' '] (Text.runs isWordChar title)) ++ after) ∧
      (before = [] ∨ before = [' ']) ∧ (after = [] ∨ after = [' ']) := by
  rcases Text.exists_mapRuns_eq isWordChar [' '] title with
    ⟨before, after, htitle, hbefore, hafter⟩
  have hnormal : Text.mapRuns isNonWord (fun _ => [' ']) title = _ := htitle
  refine ⟨before, after, ?_, hbefore, hafter⟩
  rw [ofTitle, hnormal, lowercase_padded hbefore hafter]

variable {title : Text}

/-- Words that follow one another in a title follow one another in its normal form. -/
theorem exists_ofTitle_of_infix {words : List Text} (hne : words ≠ [])
    (h : words <:+: Text.runs isWordChar title)
    (hquery : ∀ word ∈ words, ∀ c ∈ word, isQueryChar c = true) :
    ∃ front behind,
      ofTitle title = front ++ ((Text.joinWith [' '] words).map lowerLetter ++ behind) ∧
        Text.EndsApart [' '] front ∧ Text.BeginsApart [' '] behind := by
  have hletters : ∀ c ∈ Text.joinWith [' '] words, c ≠ capitalSigma ∧ c ≠ '\u0130' := by
    intro c hc
    have hchar : isQueryChar c = true ∨ c = ' ' := by
      rcases Text.mem_joinWith [' '] hc with hspace | ⟨word, hword, hmem⟩
      · exact Or.inr (List.mem_singleton.mp hspace)
      · exact Or.inl (hquery word hword c hmem)
    constructor
    · rintro rfl
      exact absurd hchar (by decide)
    · rintro rfl
      exact absurd hchar (by decide)
  have hbetween : ∃ front behind, Text.mapRuns isNonWord (fun _ => [' ']) title =
      front ++ (Text.joinWith [' '] words ++ behind) ∧
        Text.EndsApart [' '] front ∧ Text.BeginsApart [' '] behind :=
    Text.exists_mapRuns_of_infix hne h
  rcases hbetween with ⟨front, behind, htitle, hfront, hbehind⟩
  rw [ofTitle, htitle]
  exact exists_lowercase_between hletters hfront hbehind

theorem mem_tokenize_ofTitle {word : Text} (h : word ∈ Text.runs isWordChar title)
    (hquery : ∀ c ∈ word, isQueryChar c = true) :
    word.map lowerLetter ∈ tokenize (ofTitle title) := by
  have hinfix : [word] <:+: Text.runs isWordChar title := by
    rcases List.append_of_mem h with ⟨before, after, hruns⟩
    rw [hruns]
    exact ⟨before, after, List.append_assoc before [word] after⟩
  rcases exists_ofTitle_of_infix (List.cons_ne_nil word []) hinfix
    (List.forall_mem_singleton.mpr hquery) with ⟨front, behind, htitle, hfront, hbehind⟩
  rw [htitle]
  have hlower : IsWord (word.map lowerLetter) := by
    refine ⟨fun hnil => (Text.of_mem_runs h).left (List.map_eq_nil_iff.mp hnil), ?_⟩
    intro c hc
    rcases List.mem_map.mp hc with ⟨d, hd, rfl⟩
    exact isQueryChar_lowerLetter (hquery d hd)
  apply hlower.mem_tokenize
  · rcases hfront with rfl | ⟨before, rfl⟩
    · rfl
    · rw [List.getLast?_concat]
      rfl
  · rcases hbehind with rfl | ⟨after, rfl⟩
    · rfl
    · rfl

theorem eq_space_or_isWordChar_of_mem {c : Char}
    (h : c ∈ Text.mapRuns isNonWord (fun _ => [' ']) title) : c = ' ' ∨ isWordChar c = true := by
  rcases Text.mem_of_mem_mapRuns h with hspace | ⟨hword, _⟩
  · exact Or.inl (List.mem_singleton.mp hspace)
  · exact Or.inr hword

/-- Nothing is left of a title but spaces and word characters. -/
theorem eq_space_or_isWordChar_of_mem_ofTitle {c : Char} (h : c ∈ ofTitle title) :
    c = ' ' ∨ isWordChar c = true := by
  rcases exists_of_mem_lowercaseAfter h with ⟨d, hd, form, hform, hmem⟩
  rcases eq_space_or_isWordChar_of_mem hd with rfl | hword
  · rw [(isNeutral_of_isBlank rfl).form_eq hform, List.mem_singleton] at hmem
    exact Or.inl hmem
  · exact Or.inr (hform.isWordChar hword c hmem)

end Normal
end PaperFilter
