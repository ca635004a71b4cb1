import Mathlib
import PaperFilter.Proofs.Query.Canonical
import PaperFilter.Proofs.Query.Transcription
import PaperFilter.Proofs.Unicode.Classes

/-!
# Queries in lowercase

Lowercase maps every script that words are written in into itself, one character to one, and leaves
blanks, parentheses and quotation marks alone.  A text over the alphabet of queries is transcribed
by it, in place.
-/

namespace PaperFilter

open Unicode

/-!
## Scripts
-/

theorem le_of_script {n : Nat} (h : scriptRanges.contains n = true) : 0x400 ≤ n := by
  rcases (Ranges.contains_iff scriptRanges_isIncreasing).mp h with ⟨script, hmem, hlow, _⟩
  have hall : ∀ script ∈ scriptRanges, 0x400 ≤ script.1 := by decide
  exact Nat.le_trans (hall script hmem) hlow

theorem isQueryChar_of_script {c : Char} (h : scriptRanges.contains c.toNat = true) :
    isQueryChar c = true := by
  have hblank : isBlank c = false :=
    Ranges.contains_eq_false_of_apart scriptRanges_isIncreasing blankRanges_isIncreasing
      (by decide) h
  rw [isQueryChar, hblank, h]
  simp

theorem ascii_or_script_of_isQueryChar {c : Char} (h : isQueryChar c = true) :
    c.toNat < 128 ∨ scriptRanges.contains c.toNat = true := by
  simp only [isQueryChar, Bool.or_eq_true, decide_eq_true_eq, Bool.and_eq_true,
    Bool.not_eq_true'] at h
  rcases h with (halphanum | rfl) | ⟨_, hscript⟩
  · have hbounds := toNat_bounds_of_isAlphanum halphanum
    exact Or.inl (by omega)
  · exact Or.inl (by decide)
  · exact Or.inr hscript

theorem contains_lowerCodePoint {n : Nat} (h : scriptRanges.contains n = true) :
    scriptRanges.contains (lowerCodePoint caseRuns n) = true := by
  have hscripts : ∀ run ∈ caseRuns, ∀ script ∈ scriptRanges,
      run.StaysWithin script.1 script.2 := by decide +kernel
  rw [Ranges.contains_iff scriptRanges_isIncreasing] at h ⊢
  rcases h with ⟨script, hmem, hlow, hhigh⟩
  exact ⟨script, hmem,
    lowerCodePoint_within (fun run hrun => hscripts run hrun script hmem) hlow hhigh⟩

theorem contains_lowerLetter {c : Char} (h : scriptRanges.contains c.toNat = true) :
    scriptRanges.contains (lowerLetter c).toNat = true := by
  rw [toNat_lowerLetter]
  exact contains_lowerCodePoint h

/-- Core has lowercase letters for ASCII only. -/
theorem toLower_of_script {c : Char} (h : scriptRanges.contains c.toNat = true) :
    c.toLower = c := by
  rw [Char.toLower, dif_neg]
  rintro ⟨_, hle⟩
  have hle : c.toNat ≤ 90 := UInt32.le_iff_toNat_le.mp hle
  have := le_of_script h
  omega

theorem ne_of_script {c d : Char} (h : scriptRanges.contains c.toNat = true)
    (hascii : d.toNat < 128) : c ≠ d := by
  rintro rfl
  have := le_of_script h
  omega

theorem forall_ascii {P : Char → Prop} (hall : ∀ n < 128, P (Char.ofNat n)) {c : Char}
    (h : c.toNat < 128) : P c := by
  have hc := hall c.toNat h
  rwa [Char.ofNat_toNat] at hc

/-- What a title keeps of a word it keeps of the word in lowercase. -/
theorem isWordChar_lowerLetter {c : Char} (h : isQueryChar c = true) :
    isWordChar (lowerLetter c) = isWordChar c := by
  rcases ascii_or_script_of_isQueryChar h with hascii | hscript
  · rw [lowerLetter_of_ascii hascii]
    exact forall_ascii (P := fun c => isWordChar c.toLower = isWordChar c) (by decide +kernel)
      hascii
  · rcases lowerCodePoint_eq_or caseRuns c.toNat with hsame | ⟨run, hrun, hfirst, hlast, _, _⟩
    · rw [lowerLetter, hsame, Char.ofNat_toNat]
    · rcases (Ranges.contains_iff scriptRanges_isIncreasing).mp hscript with
        ⟨script, hmem, hlow, hhigh⟩
      have hruns : ∀ run ∈ caseRuns, ∀ script ∈ scriptRanges,
          run.last < script.1 ∨ script.2 < run.first ∨
            ∃ word ∈ wordRanges, word.1 ≤ run.first ∧ run.last ≤ word.2 := by
        decide +kernel
      rcases hruns run hrun script hmem with hbefore | hbehind | ⟨word, hword, _⟩
      · omega
      · omega
      · have hchar : isWordChar c = true :=
          (Ranges.contains_iff wordRanges_isIncreasing).mpr ⟨word, hword, by omega, by omega⟩
        have hdotted : c ≠ '\u0130' := by
          rintro rfl
          exact absurd (le_of_script hscript) (by decide)
        have hform : IsLowerForm c [lowerLetter c] := Or.inl (lowerChar_eq_singleton hdotted).symm
        rw [hchar, hform.isWordChar hchar _ List.mem_cons_self]

/-!
## Lowercase as a transcription
-/

def lowerQueryChar (c : Char) : Char :=
  if isQueryChar c then lowerLetter c else c

theorem isQueryChar_lowerQueryChar (c : Char) :
    isQueryChar (lowerQueryChar c) = isQueryChar c := by
  by_cases h : isQueryChar c = true
  · rw [lowerQueryChar, if_pos h, h]
    rcases ascii_or_script_of_isQueryChar h with hascii | hscript
    · rw [lowerLetter_of_ascii hascii]
      revert h
      exact forall_ascii (P := fun c => isQueryChar c = true → isQueryChar c.toLower = true)
        (by decide) hascii
    · exact isQueryChar_of_script (contains_lowerLetter hscript)
  · rw [lowerQueryChar, if_neg h]

theorem isQueryChar_lowerLetter {c : Char} (h : isQueryChar c = true) :
    isQueryChar (lowerLetter c) = true := by
  have hsame := isQueryChar_lowerQueryChar c
  rwa [lowerQueryChar, if_pos h, h] at hsame

theorem isBlank_lowerQueryChar (c : Char) : isBlank (lowerQueryChar c) = isBlank c := by
  by_cases h : isQueryChar c = true
  · have hlower : isQueryChar (lowerQueryChar c) = true := by
      rw [isQueryChar_lowerQueryChar, h]
    rw [isBlank_eq_false_of_isQueryChar h, isBlank_eq_false_of_isQueryChar hlower]
  · rw [lowerQueryChar, if_neg h]

theorem lowerQueryChar_eq_mark {mark : Char} (hmark : mark ∈ marks) (c : Char) :
    lowerQueryChar c = mark ↔ c = mark := by
  rw [lowerQueryChar]
  split
  · next h =>
      rcases ascii_or_script_of_isQueryChar h with hascii | hscript
      · rw [lowerLetter_of_ascii hascii]
        have hall := forall_ascii
          (P := fun c => marks.all (fun mark => c.toLower = mark ↔ c = mark) = true)
          (by decide) hascii
        exact of_decide_eq_true (List.all_eq_true.mp hall mark hmark)
      · have hmark : mark.toNat < 128 := by
          simp only [marks, List.mem_cons, List.not_mem_nil, or_false] at hmark
          rcases hmark with rfl | rfl | rfl | rfl <;> decide
        have hlower := ne_of_script (contains_lowerLetter hscript) hmark
        have hsame := ne_of_script hscript hmark
        exact ⟨fun hcontra => absurd hcontra hlower, fun hcontra => absurd hcontra hsame⟩
  · exact Iff.rfl

theorem toNat_lt_of_isLower {letter : Char} (h : letter.isLower = true) : letter.toNat < 128 := by
  simp only [Char.isLower, Bool.and_eq_true, decide_eq_true_eq] at h
  have hle : letter.toNat ≤ 122 := UInt32.le_iff_toNat_le.mp h.right
  omega

theorem toLower_lowerQueryChar {letter : Char} (hletter : letter.isLower = true) (c : Char) :
    (lowerQueryChar c).toLower = letter ↔ c.toLower = letter := by
  rw [lowerQueryChar]
  split
  · next h =>
      rcases ascii_or_script_of_isQueryChar h with hascii | hscript
      · rw [lowerLetter_of_ascii hascii,
          forall_ascii (P := fun c => c.toLower.toLower = c.toLower) (by decide) hascii]
      · have hlower := contains_lowerLetter hscript
        have hbound := toNat_lt_of_isLower hletter
        rw [toLower_of_script hlower, toLower_of_script hscript]
        exact ⟨fun hcontra => absurd hcontra (ne_of_script hlower hbound),
          fun hcontra => absurd hcontra (ne_of_script hscript hbound)⟩
  · exact Iff.rfl

namespace Transcription

/-- Words in lowercase, in place. -/
def lowercase : Transcription where
  change := lowerQueryChar
  offset := 0
  isBlank_change := isBlank_lowerQueryChar
  isQueryChar_change := isQueryChar_lowerQueryChar
  change_eq_mark _ hmark := lowerQueryChar_eq_mark hmark
  toLower_change _ hletter := toLower_lowerQueryChar hletter

end Transcription

/-!
## Texts over the alphabet of queries
-/

/-- Every character is one of a word, a blank, a parenthesis or a quotation mark. -/
def IsQueryText (text : Text) : Prop :=
  ∀ c ∈ text, isQueryChar c = true ∨ isBlank c = true ∨ c = '(' ∨ c = ')' ∨ c = '"'

instance (text : Text) : Decidable (IsQueryText text) :=
  List.decidableBAll _ text

theorem IsQueryText.lowercase_eq {text : Text} (h : IsQueryText text) :
    lowercase text = Transcription.lowercase.text text := by
  have hletters : ∀ c ∈ text, c ≠ capitalSigma ∧ c ≠ '\u0130' := by
    intro c hc
    constructor
    · rintro rfl
      exact absurd (h _ hc) (by decide)
    · rintro rfl
      exact absurd (h _ hc) (by decide)
  rw [lowercase_eq_map hletters]
  apply List.map_congr_left
  intro c hc
  change lowerLetter c = lowerQueryChar c
  rw [lowerQueryChar]
  split
  · rfl
  · next hquery =>
      rcases h c hc with hcontra | hblank | rfl | rfl | rfl
      · exact absurd hcontra hquery
      · exact lowerLetter_of_isBlank hblank
      · rfl
      · rfl
      · rfl

theorem IsWord.isQueryText {word : Text} (h : IsWord word) : IsQueryText word :=
  fun c hc => Or.inl (h.right c hc)

theorem IsWord.lowercase_eq {word : Text} (h : IsWord word) :
    lowercase word = Transcription.lowercase.text word :=
  h.isQueryText.lowercase_eq

theorem IsWord.lowercase_eq_map {word : Text} (h : IsWord word) :
    lowercase word = word.map lowerLetter := by
  rw [h.lowercase_eq]
  exact List.map_congr_left fun c hc => if_pos (h.right c hc)

/-!
## Compilers that do not tell letter case apart
-/

/-- Whether a word compiles does not depend on its letter case. -/
def PatternCompiler.IgnoresCase [PatternCompiler] : Prop :=
  ∀ word, IsWord word → (Grammar.Compiles (lowercase word) ↔ Grammar.Compiles word)

theorem PatternCompiler.ignoresCase_unlimited : @IgnoresCase .unlimited :=
  fun word _ => iff_of_true (Grammar.compiles_unlimited _) (Grammar.compiles_unlimited word)

theorem Transcription.keepsCompiling_lowercase [PatternCompiler]
    (hcase : PatternCompiler.IgnoresCase) {position : Nat} {query : Text} {lexemes : List Lexeme}
    (h : Lexeme.scanFrom position query = .ok lexemes) :
    Transcription.lowercase.KeepsCompiling (lexemes.map Lexeme.symbol) := by
  intro word hmem
  have hword := Lexeme.isWord_of_scanFrom h hmem
  rw [← hword.lowercase_eq]
  exact hcase word hword

end PaperFilter
