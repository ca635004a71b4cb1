import PaperFilter.Proofs.Document.Titles

/-!
# Tokens of a title

The normal form of a title has word characters and single spaces in it, so that the space and the
underscore are the delimiters that it is cut at.  Its tokens, but for empty ones, are the runs of
the other word characters of the title, each in lowercase by itself.
-/

namespace PaperFilter

open Unicode

/-!
## Texts without dots
-/

theorem filter_tokenize_of_no_dot {text : Text} (h : '.' ∉ text) :
    (tokenize text).filter (fun token => !token.isEmpty) =
      Text.runs (fun c => !Token.isDelimiter c) text := by
  by_cases hne : text = []
  · subst hne
    rfl
  · have hchunks : (Token.chunks text).flatMap Token.ofChunk = Token.chunks text := by
      have hone : ∀ chunk ∈ Token.chunks text, Token.ofChunk chunk = [chunk] := by
        intro chunk hchunk
        have hdot : '.' ∉ chunk := fun hmem => h (Token.mem_of_mem_chunks hchunk hmem)
        rw [Token.ofChunk, List.contains_eq_mem, decide_eq_false hdot]
        rfl
      rw [List.flatMap_congr hone, List.flatMap_singleton']
    rw [tokenize, if_neg (mt List.isEmpty_iff.mp hne), hchunks, Token.filter_chunks]

/-- Of the word characters the underscore alone is a delimiter. -/
theorem isDelimiter_of_isWordChar {c : Char} (h : isWordChar c = true) :
    Token.isDelimiter c = (c == '_') := by
  by_cases hascii : c.toNat < 128
  · revert h
    exact forall_ascii (P := fun c => isWordChar c = true → Token.isDelimiter c = (c == '_'))
      (by decide +kernel) hascii
  · have hunderscore : (c == '_') = false := by
      apply beq_false_of_ne
      rintro rfl
      exact hascii (by decide)
    rw [hunderscore, Token.isDelimiter, isBlank_eq_false_of_isWordChar h,
      Token.isInformationSeparator, Token.isAsciiPunctuation]
    simp
    omega

namespace Normal

/-- A word character other than the underscore. -/
def isTokenChar (c : Char) : Bool :=
  isWordChar c && c != '_'

theorem isTokenChar_of_isLowerForm {c : Char} {form : Text} (hc : isTokenChar c = true)
    (h : IsLowerForm c form) : ∀ d ∈ form, isTokenChar d = true := by
  rw [isTokenChar, Bool.and_eq_true, bne_iff_ne] at hc
  intro d hd
  rw [isTokenChar, Bool.and_eq_true, bne_iff_ne]
  refine ⟨h.isWordChar hc.left d hd, ?_⟩
  rintro rfl
  exact hc.right (h.eq_of_mem hd (by decide))

/-!
## Characters of a title in normal form
-/

section

variable {title : Text} {c : Char}

theorem isNeutral_of_mem (h : c ∈ Text.mapRuns isNonWord (fun _ => [' ']) title)
    (hc : isTokenChar c = false) : IsNeutral c := by
  rcases eq_space_or_isWordChar_of_mem h with rfl | hword
  · exact isNeutral_of_isBlank rfl
  · rw [isTokenChar, hword, Bool.true_and, bne_eq_false_iff_eq] at hc
    rw [hc]
    exact isNeutral_underscore

theorem isTokenChar_of_mem_ofTitle (h : c ∈ ofTitle title) :
    (!Token.isDelimiter c) = isTokenChar c := by
  rcases eq_space_or_isWordChar_of_mem_ofTitle h with rfl | hword
  · decide +kernel
  · rw [isDelimiter_of_isWordChar hword, isTokenChar, hword, Bool.true_and]
    rfl

end

theorem runs_ofTitle (title : Text) :
    Text.runs isTokenChar (ofTitle title) = (Text.runs isTokenChar title).map lowercase := by
  have hkept : ∀ c, isNonWord c = true → isTokenChar c = false := by
    intro c hc
    rw [isNonWord, Bool.not_eq_true'] at hc
    rw [isTokenChar, hc, Bool.false_and]
  have hspace : isTokenChar ' ' = false := by decide +kernel
  rw [ofTitle, runs_lowercase isTokenChar_of_isLowerForm fun c hc => isNeutral_of_mem hc,
    Text.runs_mapRuns_separator hkept hspace]

/-- No two spaces stand next to each other. -/
theorem isChain_ofTitle (title : Text) :
    (ofTitle title).IsChain fun c d => ¬ (c = ' ' ∧ d = ' ') := by
  have hspace : isNonWord ' ' = true := by decide +kernel
  have hstandIn : ∀ c, Text.standIn isNonWord ' ' c = ' ' → isNonWord c = true := by
    intro c hc
    cases hnonWord : isNonWord c with
    | true => rfl
    | false =>
        rw [Text.standIn_of_not hnonWord] at hc
        rw [hc, hspace] at hnonWord
        cases hnonWord
  have hreplaced : (Text.mapRuns isNonWord (fun _ => [' ']) title).IsChain
      fun c d => ¬ (c = ' ' ∧ d = ' ') := by
    apply Text.isChain_mapRuns_separator
    apply List.Pairwise.isChain
    apply List.pairwise_of_forall
    rintro c d happart ⟨hc, hd⟩
    exact absurd ((happart (hstandIn c hc)).symm.trans (hstandIn d hd)) Bool.false_ne_true
  apply isChain_lowercaseAfter _ (by decide) hreplaced
  rintro c d form other happart hform hother _ hc _ hd ⟨rfl, rfl⟩
  exact happart ⟨hform.eq_of_mem hc (by decide), hother.eq_of_mem hd (by decide)⟩

end Normal

/--
The tokens of a title in normal form that are not empty are, in order, the runs of its word
characters other than the underscore, each in lowercase by itself.  The normal form has nothing but
word characters and single spaces in it.
-/
theorem nonempty_tokens_ofTitle (title : Text) :
    (tokenize (Normal.ofTitle title)).filter (fun token => !token.isEmpty) =
        (Text.runs (fun c => isWordChar c && c != '_') title).map lowercase ∧
      (∀ c ∈ Normal.ofTitle title, isWordChar c = true ∨ c = ' ') ∧
      ¬ [' ', ' '] <:+: Normal.ofTitle title := by
  have hchars : ∀ c ∈ Normal.ofTitle title, isWordChar c = true ∨ c = ' ' :=
    fun c hc => (Normal.eq_space_or_isWordChar_of_mem_ofTitle hc).symm
  have hdot : '.' ∉ Normal.ofTitle title := by
    intro hmem
    exact absurd (hchars '.' hmem) (by decide +kernel)
  refine ⟨?_, hchars, ?_⟩
  · rw [filter_tokenize_of_no_dot hdot,
      Text.runs_congr fun c hc => Normal.isTokenChar_of_mem_ofTitle hc, Normal.runs_ofTitle]
    rfl
  · intro hspaces
    have hchain := List.IsChain.infix (Normal.isChain_ofTitle title) hspaces
    exact List.isChain_pair.mp hchain ⟨rfl, rfl⟩

/-- The underscore ends a token, and a sigma in front of it is final. -/
example : tokenize (Normal.ofTitle "ΟΔΟΣ_ΣΑΣ: e.g.".toList) =
    ["οδος".toList, "σας".toList, "e".toList, "g".toList, []] := by cbv

end PaperFilter
