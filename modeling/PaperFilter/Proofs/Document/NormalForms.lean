import PaperFilter.Proofs.Document.Abstracts
import PaperFilter.Proofs.Document.TitleTokens

/-!
# Texts in normal form

The normal form of a title or an abstract is taken of texts that are in normal form already, where
it leaves everything as it is.  Lowercase comes last for a title and undoes nothing of what was done
before; in an abstract it may turn a character that is no word character into one, since the two
tables are of different versions, but a hyphen that follows a word character still follows one.
-/

namespace PaperFilter
namespace Normal

open Unicode

/-- A title in normal form: words in lowercase, and single spaces. -/
structure IsTitleForm (text : Text) : Prop where
  chars : ∀ c ∈ text, c = ' ' ∨ isWordChar c = true
  single : text.IsChain fun c d => ¬ (c = ' ' ∧ d = ' ')
  lower : ∀ c ∈ text, lowerChar c = [c]

/-- An abstract in normal form: pieces in lowercase with one space between each two, and hyphens at
the beginning and behind word characters only. -/
structure IsAbstractForm (text : Text) : Prop where
  hyphens : text.IsChain MayFollow
  even : Text.joinWith [' '] (blankSeparated text) = text
  lower : ∀ c ∈ text, lowerChar c = [c]

/-!
## Titles
-/

theorem isTitleForm_ofTitle (text : Text) : IsTitleForm (ofTitle text) where
  chars := fun _ hc => eq_space_or_isWordChar_of_mem_ofTitle hc
  single := isChain_ofTitle text
  lower := fun _ hc => lowerChar_eq_of_mem_lowercase hc

theorem IsTitleForm.ofTitle_eq {text : Text} (h : IsTitleForm text) : ofTitle text = text := by
  have hspaces : ∀ c ∈ text, isNonWord c = true → c = ' ' := by
    intro c hc hnonWord
    rcases h.chars c hc with hspace | hword
    · exact hspace
    · rw [isNonWord, hword] at hnonWord
      cases hnonWord
  rw [ofTitle, Text.mapRuns_separator_eq_self hspaces h.single, lowercase_eq_self h.lower]

theorem ofTitle_eq_self_iff {text : Text} : ofTitle text = text ↔ IsTitleForm text :=
  ⟨fun h => h ▸ isTitleForm_ofTitle text, IsTitleForm.ofTitle_eq⟩

/-!
## Abstracts
-/

theorem not_mem_tail_of_isChain {run : Text} (hrun : ∀ c ∈ run, isNonWord c = true)
    (h : run.IsChain MayFollow) : '-' ∉ run.tail := by
  induction run with
  | nil => exact List.not_mem_nil
  | cons c rest ih =>
      rcases List.forall_mem_cons.mp hrun with ⟨hc, hrest⟩
      rcases List.isChain_cons.mp h with ⟨hfirst, hothers⟩
      rw [List.tail_cons]
      cases rest with
      | nil => exact List.not_mem_nil
      | cons d rest =>
          refine List.not_mem_cons_of_ne_of_not_mem ?_ (ih hrest hothers)
          rintro rfl
          rw [isNonWord_eq_false_iff.mpr (hfirst '-' rfl rfl)] at hc
          cases hc

/-- No run is stripped whose hyphens begin it or follow word characters. -/
theorem withoutHyphenRuns_eq_self {text : Text} (h : text.IsChain MayFollow) :
    withoutHyphenRuns text = text := by
  have hwhole : ∀ run, (∀ c ∈ run, isNonWord c = true) → run.IsChain MayFollow →
      withoutHyphenRuns run = run := by
    intro run hrun hchain
    rw [withoutHyphenRuns_of_forall hrun]
    exact (StripsRun.kept (not_mem_tail_of_isChain hrun hchain)).eq_withoutHyphens.symm
  induction text using Text.induction_at_cuts isNonWord with
  | whole run hrun => exact hwhole run hrun h
  | cut run c rest hrun hc ih =>
      rcases List.isChain_append.mp h with ⟨hchain, hbehind, _⟩
      rw [withoutHyphenRuns_append_cons hc, hwhole run hrun hchain,
        ih (List.isChain_cons.mp hbehind).right]

theorem isAbstractForm_ofAbstract (text : Text) : IsAbstractForm (ofAbstract text) where
  hyphens := isChain_ofAbstract text
  even := by
    have hpieces : blankSeparated (ofAbstract text) =
        blankSeparated (lowercase (withoutHyphenRuns text)) :=
      Text.runs_joinWith rfl fun piece hpiece =>
        ⟨(Text.of_mem_runs hpiece).left, fun c hc => ((Text.of_mem_runs hpiece).right c hc).left⟩
    exact congrArg (Text.joinWith [' ']) hpieces
  lower := by
    intro c hc
    rcases Text.mem_joinWith [' '] hc with hspace | ⟨piece, hpiece, hmem⟩
    · rw [List.mem_singleton.mp hspace]
      exact (isNeutral_of_isBlank rfl).lowerChar_eq
    · exact lowerChar_eq_of_mem_lowercase ((Text.of_mem_runs hpiece).right c hmem).right

theorem IsAbstractForm.ofAbstract_eq {text : Text} (h : IsAbstractForm text) :
    ofAbstract text = text := by
  have hstripped : ofAbstract text =
      Text.joinWith [' '] (blankSeparated (lowercase (withoutHyphenRuns text))) := rfl
  rw [hstripped, withoutHyphenRuns_eq_self h.hyphens, lowercase_eq_self h.lower, h.even]

theorem ofAbstract_eq_self_iff {text : Text} : ofAbstract text = text ↔ IsAbstractForm text :=
  ⟨fun h => h ▸ isAbstractForm_ofAbstract text, IsAbstractForm.ofAbstract_eq⟩

/--
The normal forms of titles and of abstracts are taken once and for all.  The texts that they leave
as they are are those in normal form.
-/
theorem normalForms_idem (text : Text) :
    ofTitle (ofTitle text) = ofTitle text ∧
      ofAbstract (ofAbstract text) = ofAbstract text ∧
      (ofTitle text = text ↔ IsTitleForm text) ∧
      (ofAbstract text = text ↔ IsAbstractForm text) :=
  ⟨(isTitleForm_ofTitle text).ofTitle_eq, (isAbstractForm_ofAbstract text).ofAbstract_eq,
    ofTitle_eq_self_iff, ofAbstract_eq_self_iff⟩

end Normal
end PaperFilter
