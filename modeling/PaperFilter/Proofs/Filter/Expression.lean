import PaperFilter.Filter
import PaperFilter.Proofs.Query.Lowercase
import PaperFilter.Proofs.Query.Refusal

/-!
# The expression of a filter

A filter does not read the expression that it is given but what is left of it without the blanks
around it, in lowercase where the settings say so.  If it is refused, the expression is refused for
the same reason, but the place of the error is counted from the first character that is no blank.
-/

namespace PaperFilter

open Unicode

/-- What is read of an expression. -/
def QuerySettings.expression (settings : QuerySettings) (expr : Text) : Text :=
  if settings.foldCase then lowercase (trim expr) else trim expr

namespace DocumentFilter

variable {expr : Text} {config : Config}

section

variable [PatternCompiler]

/-- An expression that is not blank is read as a query. -/
theorem readQuery_eq (hexpr : trim expr ≠ []) (settings : QuerySettings) :
    readQuery expr settings = (Query.parse (settings.expression expr)).map some := by
  have hempty : ¬ (trim expr).isEmpty = true := by
    rwa [List.isEmpty_iff]
  rw [readQuery, QuerySettings.expression]
  simp only [if_neg hempty]
  split
  · rfl
  · rfl

theorem build_eq (hexpr : trim expr ≠ []) :
    build expr config = (Node.parse (config.query.expression expr)).map fun node =>
      ⟨some ⟨config.query.expression expr, node⟩, config.filter.source,
        config.filter.extractCodeUrls, config.performance⟩ := by
  rw [build, readQuery_eq hexpr, Query.parse]
  cases Node.parse (config.query.expression expr) <;> rfl

/-- A filter is refused only for its query. -/
theorem parse_of_build_eq_error {error : QueryError} (h : build expr config = .error error) :
    Node.parse (config.query.expression expr) = .error error := by
  by_cases hexpr : trim expr = []
  · rw [build, readQuery, hexpr] at h
    cases h
  · rw [build_eq hexpr] at h
    exact map_eq_error h

/--
The query of a filter is refused exactly as the expression without the blanks around it, but for the
letters of a word that the error names.
-/
theorem exists_verdict_of_build (hcase : PatternCompiler.IgnoresCase) {error : QueryError}
    (halphabet : IsQueryText expr) (h : build expr config = .error error) :
    ∃ trimmed, Grammar.verdictFrom 0 (trim expr) = .error trimmed ∧
      trimmed.kind = error.kind ∧ trimmed.position? = error.position? := by
  have hverdict := Grammar.parse_eq_error_iff.mp (parse_of_build_eq_error h)
  rw [QuerySettings.expression] at hverdict
  split at hverdict
  · have htrim : IsQueryText (trim expr) := fun c hc => halphabet c (mem_of_mem_trim hc)
    have hlower := Grammar.verdictFrom_text .lowercase 0 (trim expr) fun _ hscan =>
      Transcription.keepsCompiling_lowercase hcase hscan
    rw [← htrim.lowercase_eq] at hlower
    change Grammar.verdictFrom 0 (lowercase (trim expr)) = _ at hlower
    rw [hlower] at hverdict
    cases htrimmed : Grammar.verdictFrom 0 (trim expr) with
    | error trimmed =>
        rw [htrimmed] at hverdict
        cases hverdict
        refine ⟨trimmed, rfl, (Transcription.kind_error _ _).symm, ?_⟩
        rw [Transcription.position_error]
        exact (Option.map_id_apply).symm
    | ok _ =>
        rw [htrimmed] at hverdict
        cases hverdict
  · exact ⟨error, hverdict, rfl, rfl⟩

end

/--
Where building a filter is refused, reading the expression by itself is refused too, with the same
kind of error, provided that letter case does not decide whether a word compiles.  Its position is
that of the filter's error and as many places more as there are blanks in front, so that the two
agree only if there are none or the error has no position.
-/
theorem parse_of_build_refused [PatternCompiler] (hcase : PatternCompiler.IgnoresCase)
    {error : QueryError} (halphabet : IsQueryText expr) (h : build expr config = .error error) :
    ∃ given, Node.parse expr = .error given ∧ given.kind = error.kind ∧
      given.position? = error.position?.map (· + (leadingBlanks expr).length) ∧
      (given.position? = error.position? ↔ leadingBlanks expr = [] ∨ error.position? = none) := by
  rcases exists_verdict_of_build hcase halphabet h with ⟨trimmed, htrimmed, hkind, hposition⟩
  have hverdict := Grammar.verdictFrom_trim expr
  rw [htrimmed] at hverdict
  have hmoved : ((Transcription.movedBy (leadingBlanks expr).length).error trimmed).position? =
      error.position?.map (· + (leadingBlanks expr).length) := by
    rw [Transcription.position_error, hposition]
    rfl
  refine ⟨_, Grammar.parse_eq_error_iff.mpr hverdict, ?_, hmoved, ?_⟩
  · rw [Transcription.kind_error, hkind]
  · rw [hmoved]
    cases error.position? with
    | none => simp
    | some position => simp [List.length_eq_zero_iff]

theorem parse_of_build_refused_uppercase :
    letI := PatternCompiler.unlimited
    IsQueryText " A AND".toList ∧
      build " A AND".toList .default = .error (.missingOperand .and 2) ∧
      ∃ given, Node.parse " A AND".toList = .error given ∧ given.kind = .missingOperand ∧
        given.position? = some 3 := by
  let _ := PatternCompiler.unlimited
  have halphabet : IsQueryText " A AND".toList := by decide
  have h : build " A AND".toList .default = .error (.missingOperand .and 2) := by cbv
  rcases parse_of_build_refused PatternCompiler.ignoresCase_unlimited halphabet h with
    ⟨given, hgiven, hkind, hposition, _⟩
  exact ⟨halphabet, h, given, hgiven, hkind, hposition⟩

/-- The place in the trimmed expression is not the place in the expression. -/
theorem build_refused_behind_blanks :
    letI := PatternCompiler.unlimited
    IsQueryText "  (a".toList ∧
      build "  (a".toList .default = .error (.unbalancedParens 0) ∧
      Node.parse "  (a".toList = .error (.unbalancedParens 2) := by
  refine ⟨by decide, ?_, ?_⟩
  · cbv
  · cbv

end DocumentFilter
end PaperFilter
