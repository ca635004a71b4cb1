import PaperFilter.Proofs.Document.Titles
import PaperFilter.Proofs.Filter.Expression
import PaperFilter.Proofs.Query.Padding

/-!
# Punctuation and spacing of titles

In the normal form of a title nothing is left of what separates its words, and of what stands at its
ends a space at most.  No accepted query can tell whether the space is there.  So titles with the
same words are kept or dropped together.
-/

namespace PaperFilter

open Unicode

/-- The words of a title: its maximal runs of word characters. -/
def Document.titleWords (document : Document) : List Text :=
  Text.runs isWordChar document.title

namespace Context

/-- What a query sees of the words of a title, without a space at either end. -/
theorem agrees_ofTitle {title : Text} (hne : Text.runs isWordChar title ≠ []) :
    (ofText (Normal.ofTitle title)).Agrees
      (ofText (lowercase (Text.joinWith [' '] (Text.runs isWordChar title)))) := by
  have hspaces : ∀ {edge : Text}, edge = [] ∨ edge = [' '] → ∀ c ∈ edge, c = ' ' := by
    intro edge hedge
    rcases hedge with rfl | rfl
    · exact List.forall_mem_nil _
    · exact List.forall_mem_singleton.mpr rfl
  rcases Normal.exists_ofTitle_eq title with ⟨before, after, htitle, hbefore, hafter⟩
  have hwords : Text.joinWith [' '] (Text.runs isWordChar title) ≠ [] :=
    Text.joinWith_ne_nil _ hne fun run hrun => (Text.of_mem_runs hrun).left
  rw [htitle]
  exact agrees_padded (lowercase_ne_nil hwords) (hspaces hbefore) (hspaces hafter)

end Context

namespace DocumentFilter

section

variable [PatternCompiler]

/-- The filters that there are: built from an expression, and perhaps turned to another field. -/
inductive IsBuilt : DocumentFilter → Prop where
  | build {expr : Text} {config : Config} {filter : DocumentFilter} :
      build expr config = .ok filter → IsBuilt filter
  | withSource {filter : DocumentFilter} (source : Source) :
      IsBuilt filter → IsBuilt (filter.withSource source)

theorem isCanonical_of_build {expr : Text} {config : Config} {filter : DocumentFilter}
    (h : build expr config = .ok filter) {query : Query} (hquery : filter.query = some query) :
    query.root.IsCanonical := by
  by_cases hexpr : trim expr = []
  · rw [build, readQuery, hexpr] at h
    cases h
    cases hquery
  · rw [build_eq hexpr] at h
    rcases map_eq_ok h with ⟨node, hnode, rfl⟩
    cases hquery
    exact Grammar.isCanonical_of_parse hnode

theorem IsBuilt.isCanonical {filter : DocumentFilter} (h : filter.IsBuilt) {query : Query}
    (hquery : filter.query = some query) : query.root.IsCanonical := by
  induction h with
  | build hbuild => exact isCanonical_of_build hbuild hquery
  | withSource source _ ih => exact ih hquery

end

/-- A filter of titles matches both of two documents with the same words in the title, or none. -/
theorem isMatch_eq_of_titleWords_eq [PatternCompiler] {filter : DocumentFilter}
    (hbuilt : filter.IsBuilt) (hsource : filter.source = .title) {first second : Document}
    (hne : first.titleWords ≠ []) (hwords : first.titleWords = second.titleWords) :
    filter.isMatch first = filter.isMatch second := by
  rw [isMatch, isMatch]
  cases hquery : filter.query with
  | none => rfl
  | some query =>
      have hroot := hbuilt.isCanonical hquery
      have hfirst := hroot.eval_eq (Context.agrees_ofTitle hne)
      have hsecond := hroot.eval_eq (Context.agrees_ofTitle (hwords ▸ hne))
      have hsame : Text.runs isWordChar first.title = Text.runs isWordChar second.title := hwords
      rw [hsame] at hfirst
      simp only [Query.matchesText, normalText, hsource, Document.normalText]
      rw [hfirst, hsecond]

/-- The first title has a space at either end, and empty tokens there; a lone star and a phrase at
the end do not see them. -/
theorem isMatch_eq_of_titleWords_eq_quoted :
    letI := PatternCompiler.unlimited
    ∃ filter, build "* \"deep learning\" not a*y".toList .default = .ok filter ∧
      filter.isMatch (.ofTexts "«Survey»: Deep-Learning!".toList []) = true ∧
      filter.isMatch (.ofTexts "Survey Deep Learning".toList []) = true := by
  let _ := PatternCompiler.unlimited
  have hsurvey : (build "* \"deep learning\" not a*y".toList .default).map (fun filter =>
      (filter.isMatch (.ofTexts "«Survey»: Deep-Learning!".toList []), filter.source)) =
        .ok (true, .title) := by cbv
  rcases map_eq_ok hsurvey with ⟨filter, hbuild, hfilter⟩
  rw [Prod.mk.injEq] at hfilter
  refine ⟨filter, hbuild, hfilter.left, ?_⟩
  rw [← hfilter.left]
  exact isMatch_eq_of_titleWords_eq (.build hbuild) hfilter.right (by decide +kernel)
    (by decide +kernel)

end DocumentFilter
end PaperFilter
