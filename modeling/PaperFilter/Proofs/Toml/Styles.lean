import PaperFilter.Proofs.Toml.Strings

/-!
# The styles of written TOML strings

A form fits a string that it can hold as it is, but for tabs between quotation marks.  A string is
written in the first form that fits it.  If none does, it is escaped, on one line if it is one.
-/

namespace PaperFilter
namespace Toml

variable {text : Text}

/-- The strings that a form can hold as they are. -/
def StringForm.Fits : StringForm → Text → Prop
  | .basic, text => (∀ c ∈ text, isControl c = false) ∧ '\\' ∉ text ∧ '"' ∉ text ∧ '\n' ∉ text
  | .literal, text => (∀ c ∈ text, isControl c = false) ∧ '\'' ∉ text ∧ '\n' ∉ text
  | .multilineBasic, text =>
      (∀ c ∈ text, isControl c = false) ∧ '\\' ∉ text ∧ hasTriple '"' text = false
  | .multilineLiteral, text => (∀ c ∈ text, isControl c = false) ∧ hasTriple '\'' text = false

/-- A string between quotation marks has its tabs escaped even where it is not escaped otherwise. -/
def escapeTab (c : Char) : Text :=
  if c = '\t' then ['\\', 't'] else [c]

/-- The text that a string is written as. -/
inductive IsWritten (text : Text) : Text → Prop where
  | basic (h : StringForm.basic.Fits text) :
      IsWritten text (['"'] ++ text.flatMap escapeTab ++ ['"'])
  | literal (hbasic : ¬ StringForm.basic.Fits text) (h : StringForm.literal.Fits text) :
      IsWritten text (['\''] ++ text ++ ['\''])
  | multilineBasic (hbasic : ¬ StringForm.basic.Fits text)
      (hliteral : ¬ StringForm.literal.Fits text) (h : StringForm.multilineBasic.Fits text) :
      IsWritten text
        (['"', '"', '"'] ++ firstNewline text ++ text.flatMap escapeTab ++ ['"', '"', '"'])
  | multilineLiteral (hbasic : ¬ StringForm.basic.Fits text)
      (hliteral : ¬ StringForm.literal.Fits text)
      (hmultilineBasic : ¬ StringForm.multilineBasic.Fits text)
      (h : StringForm.multilineLiteral.Fits text) :
      IsWritten text (['\'', '\'', '\''] ++ firstNewline text ++ text ++ ['\'', '\'', '\''])
  | escapedLine (h : ∀ form : StringForm, ¬ form.Fits text) (hfeed : '\n' ∉ text) :
      IsWritten text (['"'] ++ text.flatMap escapeInLine ++ ['"'])
  | escapedLines (h : ∀ form : StringForm, ¬ form.Fits text) (hfeed : '\n' ∈ text) :
      IsWritten text (['"', '"', '"', '\n'] ++ escapeInLines 0 text ++ ['"', '"', '"'])

/-!
## Tests of a choice
-/

theorem any_isControl_eq_false_iff :
    text.any isControl = false ↔ ∀ c ∈ text, isControl c = false := by
  simp

theorem contains_eq_false_iff {c : Char} : text.contains c = false ↔ c ∉ text := by
  simp

theorem fits_basic_iff : (!text.any isControl && !text.contains '\\' && !text.contains '"' &&
    !text.contains '\n') = true ↔ StringForm.basic.Fits text := by
  simp only [Bool.and_eq_true, Bool.not_eq_true', any_isControl_eq_false_iff, contains_eq_false_iff,
    StringForm.Fits, and_assoc]

theorem fits_literal_iff : (!text.any isControl && !text.contains '\'' &&
    !text.contains '\n') = true ↔ StringForm.literal.Fits text := by
  simp only [Bool.and_eq_true, Bool.not_eq_true', any_isControl_eq_false_iff, contains_eq_false_iff,
    StringForm.Fits, and_assoc]

theorem fits_multilineBasic_iff : (!text.any isControl && !text.contains '\\' &&
    !hasTriple '"' text) = true ↔ StringForm.multilineBasic.Fits text := by
  simp only [Bool.and_eq_true, Bool.not_eq_true', any_isControl_eq_false_iff, contains_eq_false_iff,
    StringForm.Fits, and_assoc]

theorem fits_multilineLiteral_iff : (!text.any isControl && !hasTriple '\'' text) = true ↔
    StringForm.multilineLiteral.Fits text := by
  simp only [Bool.and_eq_true, Bool.not_eq_true', any_isControl_eq_false_iff, StringForm.Fits]

/-!
## Strings as they are
-/

theorem escape_eq_escapeTab {c : Char} (hcontrol : isControl c = false) (hbackslash : c ≠ '\\') :
    escape c = escapeTab c := by
  have hne : ∀ d, isControl d = true → c ≠ d := by
    rintro d hd rfl
    rw [hcontrol] at hd
    cases hd
  rw [escape, escapeTab, if_neg (hne _ rfl), if_neg (hne '\x0c' rfl), if_neg (hne '\r' rfl),
    if_neg hbackslash, hcontrol]
  rfl

theorem flatMap_escapeInLine_of_fits (h : StringForm.basic.Fits text) :
    text.flatMap escapeInLine = text.flatMap escapeTab := by
  rcases h with ⟨hcontrol, hbackslash, hquote, hfeed⟩
  induction text with
  | nil => rfl
  | cons c text ih =>
      rw [List.mem_cons, not_or] at hbackslash hquote hfeed
      rcases List.forall_mem_cons.mp hcontrol with ⟨hc, hcontrol⟩
      rw [List.flatMap_cons, List.flatMap_cons, escapeInLine, if_neg (Ne.symm hquote.left),
        if_neg (Ne.symm hfeed.left), escape_eq_escapeTab hc (Ne.symm hbackslash.left),
        ih hcontrol hbackslash.right hquote.right hfeed.right]

/-- Without three quotation marks in a row none is escaped.  Some of them stand in front. -/
theorem escapeInLines_of_fits {marks : Nat} (hmarks : marks ≤ 2)
    (hcontrol : ∀ c ∈ text, isControl c = false) (hbackslash : '\\' ∉ text)
    (htriple : hasTriple '"' (List.replicate marks '"' ++ text) = false) :
    escapeInLines marks text = text.flatMap escapeTab := by
  induction text generalizing marks with
  | nil => rfl
  | cons c text ih =>
      rw [List.mem_cons, not_or] at hbackslash
      rcases List.forall_mem_cons.mp hcontrol with ⟨hc, hothers⟩
      rw [escapeInLines, List.flatMap_cons]
      by_cases hquote : c = '"'
      · subst hquote
        have hfew := lt_two_of_hasTriple hmarks htriple
        rw [← replicate_succ_append] at htriple
        rw [if_pos rfl, if_pos hfew, ih hfew hothers hbackslash.right htriple]
        rfl
      · have hrest : hasTriple '"' text = false := by
          rw [List.append_cons] at htriple
          exact hasTriple_of_append htriple
        rw [if_neg hquote, ih (Nat.zero_le 2) hothers hbackslash.right hrest]
        split
        · next hfeed =>
            subst hfeed
            rfl
        · rw [escape_eq_escapeTab hc (Ne.symm hbackslash.left)]

theorem writeStringIn_multilineBasic_of_fits (h : StringForm.multilineBasic.Fits text) :
    writeStringIn .multilineBasic text =
      ['"', '"', '"'] ++ firstNewline text ++ text.flatMap escapeTab ++ ['"', '"', '"'] := by
  rcases h with ⟨hcontrol, hbackslash, htriple⟩
  rw [writeStringIn, escapeInLines_of_fits (Nat.zero_le 2) hcontrol hbackslash htriple]

/-- Every string is written in the first form that fits it, and escaped if none does. -/
theorem isWritten_writeString (text : Text) : IsWritten text (writeString text) := by
  rw [writeString, StringForm.choose]
  split
  · next h =>
      have hfits := fits_basic_iff.mp h
      rw [writeStringIn, flatMap_escapeInLine_of_fits hfits]
      exact .basic hfits
  next hbasic =>
    have hbasic := mt fits_basic_iff.mpr hbasic
    split
    · next h => exact .literal hbasic (fits_literal_iff.mp h)
    next hliteral =>
      have hliteral := mt fits_literal_iff.mpr hliteral
      split
      · next h =>
          have hfits := fits_multilineBasic_iff.mp h
          rw [writeStringIn_multilineBasic_of_fits hfits]
          exact .multilineBasic hbasic hliteral hfits
      next hmultilineBasic =>
        have hmultilineBasic := mt fits_multilineBasic_iff.mpr hmultilineBasic
        split
        · next h =>
            exact .multilineLiteral hbasic hliteral hmultilineBasic (fits_multilineLiteral_iff.mp h)
        next hmultilineLiteral =>
          have hmultilineLiteral := mt fits_multilineLiteral_iff.mpr hmultilineLiteral
          have hnone : ∀ form : StringForm, ¬ form.Fits text := by
            intro form
            cases form with
            | basic => exact hbasic
            | literal => exact hliteral
            | multilineBasic => exact hmultilineBasic
            | multilineLiteral => exact hmultilineLiteral
          split
          · next hfeed =>
              have hfeed := List.contains_iff_mem.mp hfeed
              have hfirst : firstNewline text = ['\n'] := if_pos (List.contains_iff_mem.mpr hfeed)
              rw [writeStringIn, hfirst]
              exact .escapedLines hnone hfeed
          · next hfeed =>
              exact .escapedLine hnone fun hcontra => hfeed (List.contains_iff_mem.mpr hcontra)

end Toml
end PaperFilter
