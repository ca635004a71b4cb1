import PaperFilter.Proofs.Document.Abstracts
import PaperFilter.Proofs.Filter.Titles

/-!
# Line breaks of an abstract

An abstract may be broken into lines anywhere where it has a blank, and its blanks may be of any
kind and number.  Blanks are non-word characters, so that they belong to the runs that are taken out
with their hyphens; but a run has its last hyphen where it had it before, and is even behind it
whether or not it was evened out beforehand.  So the normal form is that of the evened text.
-/

namespace PaperFilter

open Unicode

/-- Two texts with the same pieces between their runs of blanks, and with blanks at either end in
both of them or in neither. -/
structure IsRelaid (first second : Text) : Prop where
  pieces : blankSeparated first = blankSeparated second
  leading : first.head?.any isBlank = second.head?.any isBlank
  trailing : first.getLast?.any isBlank = second.getLast?.any isBlank

namespace Normal

/-!
## Evened texts
-/

theorem evened_eq_of_isRelaid {first second : Text} (h : IsRelaid first second) :
    evened first = evened second := by
  rw [evened_eq, evened_eq, h.pieces]
  simp only [Text.edge, Bool.not_not, h.leading, h.trailing]

theorem evened_append_cons {c : Char} (hc : isBlank c = false) (front rest : Text) :
    evened (front ++ c :: rest) = evened front ++ c :: evened rest :=
  Text.mapRuns_append_cons hc _ front rest

theorem mem_evened {text : Text} {c : Char} (h : c ∈ evened text) : c = ' ' ∨ c ∈ text := by
  have heven : evened text = Text.mapRuns (fun c => !(!isBlank c)) (fun _ => [' ']) text := by
    simp only [Bool.not_not]
    rfl
  rw [heven] at h
  rcases Text.mem_of_mem_mapRuns h with hspace | ⟨_, hmem⟩
  · exact Or.inl (List.mem_singleton.mp hspace)
  · exact Or.inr hmem

theorem hyphen_not_mem_evened {text : Text} (h : '-' ∉ text) : '-' ∉ evened text := by
  intro hmem
  rcases mem_evened hmem with hspace | hkept
  · cases hspace
  · exact h hkept

theorem hyphen_not_mem_tail_evened {text : Text} (h : '-' ∉ text.tail) :
    '-' ∉ (evened text).tail := by
  cases text with
  | nil =>
      rw [evened, Text.mapRuns]
      exact h
  | cons c rest =>
      cases hc : isBlank c with
      | false =>
          have hcons : evened (c :: rest) = c :: evened rest := Text.mapRuns_cons_of_not _ hc rest
          rw [hcons]
          exact hyphen_not_mem_evened h
      | true =>
          have hfirst : '-' ≠ c := by
            rintro rfl
            exact absurd hc (by decide)
          have hnone : '-' ∉ c :: rest := List.not_mem_cons_of_ne_of_not_mem hfirst h
          exact fun hmem => hyphen_not_mem_evened hnone (List.mem_of_mem_tail hmem)

theorem evened_ne_nil {text : Text} (h : text ≠ []) : evened text ≠ [] := by
  intro hnil
  have hhead : (evened text).head? = _ := Text.head?_mapRuns_separator text
  rw [hnil, List.head?_nil, eq_comm, Option.map_eq_none_iff, List.head?_eq_none_iff] at hhead
  exact h hhead

theorem blankSeparated_evened (text : Text) :
    blankSeparated (evened text) = blankSeparated text :=
  Text.runs_mapRuns_separator (fun _ hblank => congrArg not hblank) rfl text

/-- Between blanks a text is lowercased by itself. -/
theorem blankSeparated_lowercase (text : Text) :
    blankSeparated (lowercase text) = (blankSeparated text).map lowercase := by
  apply runs_lowercase
  · intro c form hc hform d hd
    rw [Bool.not_eq_true'] at hc ⊢
    exact hform.isBlank hc d hd
  · intro c _ hc
    exact isNeutral_of_isBlank (by rwa [Bool.not_eq_false'] at hc)

/-!
## Evened texts without hyphens
-/

/-- An evened run is stripped to what the stripped run is, evened. -/
theorem exists_stripsRun_evened {run stripped : Text} (h : StripsRun run stripped) :
    ∃ other, StripsRun (evened run) other ∧ evened other = evened stripped := by
  cases h with
  | kept hnone =>
      exact ⟨_, .kept (hyphen_not_mem_tail_evened hnone), Text.mapRuns_separator_idem rfl run⟩
  | @stripped front behind hne hnone =>
      rw [evened_append_cons (by decide)]
      exact ⟨_, .stripped (evened_ne_nil hne) (hyphen_not_mem_evened hnone),
        Text.mapRuns_separator_cons_idem rfl behind⟩

theorem evened_withoutHyphens_evened (run : Text) :
    evened (withoutHyphens (evened run)) = evened (withoutHyphens run) := by
  rcases exists_stripsRun_evened (stripsRun_withoutHyphens run) with ⟨other, hstrips, heven⟩
  rwa [hstrips.eq_withoutHyphens] at heven

/-- A text that is evened out beforehand is stripped to the same text, evened. -/
theorem evened_withoutHyphenRuns_evened (text : Text) :
    evened (withoutHyphenRuns (evened text)) = evened (withoutHyphenRuns text) := by
  have hwhole : ∀ run, (∀ c ∈ run, isNonWord c = true) →
      evened (withoutHyphenRuns (evened run)) = evened (withoutHyphenRuns run) := by
    intro run hrun
    have heven : ∀ c ∈ evened run, isNonWord c = true := by
      intro c hc
      rcases mem_evened hc with rfl | hmem
      · decide +kernel
      · exact hrun c hmem
    rw [withoutHyphenRuns_of_forall heven, withoutHyphenRuns_of_forall hrun,
      evened_withoutHyphens_evened]
  induction text using Text.induction_at_cuts isNonWord with
  | whole run hrun => exact hwhole run hrun
  | cut run c rest hrun hc ih =>
      have hblank := isBlank_eq_false_of_isWordChar (isNonWord_eq_false_iff.mp hc)
      rw [evened_append_cons hblank, withoutHyphenRuns_append_cons hc, evened_append_cons hblank,
        hwhole run hrun, ih, withoutHyphenRuns_append_cons hc, evened_append_cons hblank]

theorem ofAbstract_eq_of_evened (text : Text) :
    ofAbstract text = Text.joinWith [' ']
      ((blankSeparated (withoutHyphenRuns (evened text))).map lowercase) := by
  have hstripped : ofAbstract text =
      Text.joinWith [' '] (blankSeparated (lowercase (withoutHyphenRuns text))) := rfl
  rw [hstripped, blankSeparated_lowercase, ← blankSeparated_evened,
    ← evened_withoutHyphenRuns_evened, blankSeparated_evened]

theorem ofAbstract_eq_of_isRelaid {first second : Text} (h : IsRelaid first second) :
    ofAbstract first = ofAbstract second := by
  rw [ofAbstract_eq_of_evened, ofAbstract_eq_of_evened, evened_eq_of_isRelaid h]

end Normal

namespace DocumentFilter

/--
Texts that are laid out in other lines, with other blanks between their pieces, are one abstract in
normal form, and a filter of abstracts keeps both of two documents with such abstracts, or none.
-/
theorem verdict_eq_of_isRelaid {first second : Text} (h : IsRelaid first second) :
    Normal.ofAbstract first = Normal.ofAbstract second ∧
      ∀ (filter : DocumentFilter) (document other : Document), filter.source = .abstractText →
        document.abstractText = first → other.abstractText = second →
          filter.isMatch document = filter.isMatch other ∧
            ((∃ kept, filter.check document = .keep kept) ↔
              ∃ kept, filter.check other = .keep kept) := by
  have hnormal := Normal.ofAbstract_eq_of_isRelaid h
  refine ⟨hnormal, ?_⟩
  rintro filter document other hsource rfl rfl
  have htext : filter.normalText document = filter.normalText other := by
    rw [normalText, normalText, hsource]
    exact hnormal
  have hmatch : filter.isMatch document = filter.isMatch other := by
    rw [isMatch, isMatch, htext]
  exact ⟨hmatch, by rw [exists_keep_iff, exists_keep_iff, hmatch]⟩

/-- The second abstract has line breaks in front of a hyphen and behind one. -/
theorem verdict_eq_of_isRelaid_wrapped :
    letI := PatternCompiler.unlimited
    ∃ filter, build "\"deep nets\" learn".toList .default = .ok filter ∧
      (filter.withSource .abstractText).isMatch
        (.ofTexts [] "Deep -- nets, and how they -learn.".toList) = true ∧
      (filter.withSource .abstractText).isMatch
        (.ofTexts [] "Deep\n\t--\r\nnets,  and how\nthey\n-learn.".toList) = true := by
  let _ := PatternCompiler.unlimited
  have hwrapped : (build "\"deep nets\" learn".toList .default).map (fun filter =>
      (filter.withSource .abstractText).isMatch
        (.ofTexts [] "Deep -- nets, and how they -learn.".toList)) = .ok true := by cbv
  rcases map_eq_ok hwrapped with ⟨filter, hbuild, hmatch⟩
  have hrelaid : IsRelaid "Deep -- nets, and how they -learn.".toList
      "Deep\n\t--\r\nnets,  and how\nthey\n-learn.".toList :=
    ⟨by decide +kernel, by decide +kernel, by decide +kernel⟩
  refine ⟨filter, hbuild, hmatch, ?_⟩
  rw [← hmatch]
  exact ((verdict_eq_of_isRelaid hrelaid).right (filter.withSource .abstractText) _ _ rfl rfl
    rfl).left.symm

end DocumentFilter
end PaperFilter
