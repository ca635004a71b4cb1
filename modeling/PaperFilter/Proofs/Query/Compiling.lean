import PaperFilter.Proofs.Token
import PaperFilter.Query.Node

/-!
# Words that compile

Only a word that asks for a pattern is compiled, so a word without stars is never refused.  Of the
other words nothing is known but that the compiler refuses a word for a reason that it gives, or
takes it; what it takes is no matter of the language of queries.
-/

namespace PaperFilter

/-- A compiler that takes every expression. -/
@[reducible]
def PatternCompiler.unlimited : PatternCompiler where
  refusal? _ := none

namespace Grammar

section

variable [PatternCompiler]

/-- The word is not refused. -/
def Compiles (word : Text) : Prop :=
  ∃ term, Term.ofText word = .ok term

variable {word : Text}

theorem text_of_ofText {term : Term} (h : Term.ofText word = .ok term) : term.text = word := by
  rw [Term.ofText] at h
  split at h
  · cases h
    rfl
  · cases h

theorem ofText_eq_error {error : QueryError} (h : Term.ofText word = .error error) :
    ∃ reason, error = .invalidWildcard word reason := by
  rw [Term.ofText] at h
  split at h
  · cases h
  · next reason _ =>
      cases h
      exact ⟨reason, rfl⟩

theorem compiles_iff : Compiles word ↔ (Wildcard.ofWord word).refusal? = none := by
  rw [Compiles, Term.ofText]
  cases (Wildcard.ofWord word).refusal? <;> simp

theorem ofText_of_compiles (h : Compiles word) : Term.ofText word = .ok ⟨word⟩ := by
  rw [Term.ofText, compiles_iff.mp h]

theorem compiles_of_no_star (h : '*' ∉ word) : Compiles word := by
  rw [compiles_iff, Wildcard.ofWord, Text.splitOn_of_not_mem h, Wildcard.ofPieces]
  rfl

end

theorem compiles_unlimited (word : Text) : @Compiles .unlimited word := by
  rw [@compiles_iff .unlimited]
  cases Wildcard.ofWord word <;> rfl

end Grammar

namespace Wildcard

/-!
## Expressions of words with many stars
-/

theorem ofWord_of_two_le_count {word : Text} (h : 2 ≤ word.count '*') :
    ofWord word = .pattern (Text.splitOn '*' word) := by
  have hlength := Text.length_splitOn '*' word
  rw [ofWord]
  generalize Text.splitOn '*' word = pieces at hlength ⊢
  have hmany : 3 ≤ pieces.length := by omega
  fun_cases ofPieces pieces with
  | case1 only => exact absurd hmany (by simp)
  | case2 ending => exact absurd hmany (by simp)
  | case3 beginning => exact absurd hmany (by simp)
  | case4 => rfl

theorem two_mul_length_le_expression (pieces : List Text) :
    2 * pieces.length ≤ (expression pieces).length + 2 := by
  induction pieces with
  | nil => exact Nat.zero_le _
  | cons first others ih =>
      cases others with
      | nil => exact Nat.le_add_left 2 _
      | cons second more =>
          have hexpression : expression (first :: second :: more) =
              escapePiece first ++ ['.', '+'] ++ expression (second :: more) := rfl
          rw [hexpression, List.length_append, List.length_append]
          simp only [List.length_cons, List.length_nil] at ih ⊢
          omega

/-- A word of so many stars has an expression twice as long. -/
theorem two_mul_count_le_expression (word : Text) :
    2 * word.count '*' ≤ (expression (Text.splitOn '*' word)).length := by
  have h := two_mul_length_le_expression (Text.splitOn '*' word)
  rw [Text.length_splitOn] at h
  omega

end Wildcard
end PaperFilter
