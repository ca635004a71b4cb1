import PaperFilter.Proofs.Text.Cuts
import PaperFilter.Proofs.Unicode.Lowercase
import PaperFilter.Unicode.Blank
import PaperFilter.Unicode.WordChar

/-!
# Lowercase and classes of characters

Lowercase makes word characters out of word characters, and no blank and no mark out of anything
else.  So where the characters between the runs of a class have no case, the runs of a text in
lowercase are the runs of the text, each in lowercase by itself, although the form of a sigma
depends on what stands around it.
-/

namespace PaperFilter
namespace Unicode

/-- One of the ranges holds all code points between two, these included. -/
def Ranges.covers (ranges : Ranges) (low high : Nat) : Bool :=
  ranges.any fun range => range.1.ble low && high.ble range.2

theorem Ranges.contains_of_covers {ranges : Ranges} {low high n : Nat}
    (hranges : ranges.isIncreasing = true) (h : ranges.covers low high = true) (hlow : low ≤ n)
    (hhigh : n ≤ high) : ranges.contains n = true := by
  rcases List.any_eq_true.mp h with ⟨range, hmem, hbounds⟩
  rw [Bool.and_eq_true, Nat.ble_eq, Nat.ble_eq] at hbounds
  exact (contains_iff hranges).mpr ⟨range, hmem, by omega, by omega⟩

/-!
## Forms of a character
-/

/-- The forms of a character in lowercase: its own, and for a capital sigma the final one too. -/
def IsLowerForm (c : Char) (form : Text) : Prop :=
  form = lowerChar c ∨ c = capitalSigma ∧ form = [finalSigma]

theorem exists_lowercaseAfter_cons (afterCased : Bool) (c : Char) (rest : Text) :
    ∃ form cased, IsLowerForm c form ∧
      lowercaseAfter afterCased (c :: rest) = form ++ lowercaseAfter cased rest := by
  rw [lowercaseAfter]
  refine ⟨_, _, ?_, rfl⟩
  split
  · next hsigma =>
      split
      · exact Or.inr ⟨hsigma, rfl⟩
      · exact Or.inl rfl
  · exact Or.inl rfl

namespace IsLowerForm

variable {c : Char} {form : Text} (h : IsLowerForm c form)
include h

theorem ne_nil : form ≠ [] := by
  rcases h with rfl | ⟨_, rfl⟩
  · exact lowerChar_ne_nil c
  · exact List.cons_ne_nil _ _

theorem forall_mem {P : Char → Prop} (hletter : P (lowerLetter c))
    (hdotted : c = '\u0130' → P 'i' ∧ P '\u0307') (hfinal : c = capitalSigma → P finalSigma) :
    ∀ d ∈ form, P d := by
  rcases h with rfl | ⟨hsigma, rfl⟩
  · by_cases hc : c = '\u0130'
    · rw [lowerChar, if_pos hc]
      have hboth := hdotted hc
      exact List.forall_mem_cons.mpr ⟨hboth.left, List.forall_mem_singleton.mpr hboth.right⟩
    · rw [lowerChar_eq_singleton hc]
      exact List.forall_mem_singleton.mpr hletter
  · exact List.forall_mem_singleton.mpr (hfinal hsigma)

/-- Below the small letters nothing comes of anything else. -/
theorem eq_of_mem {d : Char} (hmem : d ∈ form) (hd : d.toNat < 'a'.toNat) : c = d := by
  refine h.forall_mem (P := fun d => d.toNat < 'a'.toNat → c = d) ?_ ?_ ?_ d hmem hd
  · exact fun hlow => (lowerLetter_of_lt hlow).symm
  · intro _
    exact ⟨fun hlow => absurd hlow (by decide), fun hlow => absurd hlow (by decide)⟩
  · intro _ hlow
    exact absurd hlow (by decide)

theorem isWordChar (hc : isWordChar c = true) : ∀ d ∈ form, isWordChar d = true := by
  -- Two runs do not lead into one range: one takes in no word character, one is looked through.
  have hruns : ∀ run ∈ caseRuns,
      wordRanges.covers run.target (run.target + (run.last - run.first)) = true ∨
      (∀ word ∈ wordRanges, word.2 < run.first ∨ run.last < word.1) ∨
      ∀ n ∈ List.range' run.first (run.last - run.first + 1), wordRanges.contains n = true →
        wordRanges.contains (lowerCodePoint caseRuns n) = true := by
    decide +kernel
  refine h.forall_mem (P := fun d => Unicode.isWordChar d = true) ?_ ?_ ?_
  · rw [Unicode.isWordChar, toNat_lowerLetter]
    rcases lowerCodePoint_eq_or caseRuns c.toNat with hsame | ⟨run, hrun, hfirst, hlast, _, hlower⟩
    · rw [hsame]
      exact hc
    · rcases hruns run hrun with hcovers | hapart | hall
      · rw [hlower]
        exact Ranges.contains_of_covers wordRanges_isIncreasing hcovers (by omega) (by omega)
      · rcases (Ranges.contains_iff wordRanges_isIncreasing).mp hc with ⟨word, hword, _, _⟩
        have := hapart word hword
        omega
      · exact hall c.toNat (List.mem_range'_1.mpr (by omega)) hc
  · intro _
    exact ⟨by decide +kernel, by decide +kernel⟩
  · intro _
    decide +kernel

theorem isBlank (hc : isBlank c = false) : ∀ d ∈ form, isBlank d = false := by
  have hruns : ∀ run ∈ caseRuns, ∀ blank ∈ blankRanges,
      blank.2 < run.target ∨ run.target + (run.last - run.first) < blank.1 := by decide +kernel
  refine h.forall_mem (P := fun d => Unicode.isBlank d = false) ?_ ?_ ?_
  · apply Bool.eq_false_iff.mpr
    intro hblank
    rw [Unicode.isBlank, toNat_lowerLetter] at hblank
    rcases lowerCodePoint_eq_or caseRuns c.toNat with hsame | ⟨run, hrun, _, hlast, _, hlower⟩
    · rw [hsame] at hblank
      exact absurd (hc.symm.trans hblank) Bool.false_ne_true
    · rcases (Ranges.contains_iff blankRanges_isIncreasing).mp hblank with
        ⟨blank, hmem, hlow, hhigh⟩
      have := hruns run hrun blank hmem
      omega
  · intro _
    exact ⟨by decide, by decide⟩
  · intro _
    decide

/-- A form is in lowercase. -/
theorem lowerChar_eq : ∀ d ∈ form, lowerChar d = [d] := by
  rcases h with rfl | ⟨_, rfl⟩
  · by_cases hc : c = '\u0130'
    · have hfirst : lowerChar 'i' = ['i'] := by decide +kernel
      have hsecond : lowerChar '\u0307' = ['\u0307'] := by decide +kernel
      rw [lowerChar, if_pos hc]
      exact List.forall_mem_cons.mpr ⟨hfirst, List.forall_mem_singleton.mpr hsecond⟩
    · rw [lowerChar_eq_singleton hc, List.forall_mem_singleton,
        lowerChar_eq_singleton (lowerLetter_ne_dotted hc), lowerLetter_idem]
  · have hfinal : lowerChar finalSigma = [finalSigma] := by decide +kernel
    exact List.forall_mem_singleton.mpr hfinal

end IsLowerForm

/-!
## A text in lowercase
-/

theorem exists_of_mem_lowercaseAfter {afterCased : Bool} {text : Text} {d : Char}
    (h : d ∈ lowercaseAfter afterCased text) :
    ∃ c ∈ text, ∃ form, IsLowerForm c form ∧ d ∈ form := by
  induction text generalizing afterCased with
  | nil => cases h
  | cons c rest ih =>
      rcases exists_lowercaseAfter_cons afterCased c rest with ⟨form, cased, hform, hlower⟩
      rw [hlower, List.mem_append] at h
      rcases h with hfirst | hothers
      · exact ⟨c, List.mem_cons_self, form, hform, hfirst⟩
      · rcases ih hothers with ⟨other, hother, hmem⟩
        exact ⟨other, List.mem_cons_of_mem c hother, hmem⟩

theorem lowerChar_eq_of_mem_lowercase {text : Text} {d : Char} (h : d ∈ lowercase text) :
    lowerChar d = [d] := by
  rcases exists_of_mem_lowercaseAfter h with ⟨c, _, form, hform, hmem⟩
  exact hform.lowerChar_eq d hmem

/-- What holds of the characters next to each other in a text holds of those next to each other in
lowercase, if it does of their forms and of the two characters that one character becomes. -/
theorem isChain_lowercaseAfter {R : Char → Char → Prop}
    (hforms : ∀ {c d form other : _}, R c d → IsLowerForm c form → IsLowerForm d other →
      ∀ c' ∈ form, ∀ d' ∈ other, R c' d')
    (hdotted : R 'i' '\u0307') {text : Text} (h : text.IsChain R) (afterCased : Bool) :
    (lowercaseAfter afterCased text).IsChain R := by
  induction text generalizing afterCased with
  | nil => exact .nil
  | cons c rest ih =>
      rcases List.isChain_cons.mp h with ⟨hfirst, hrest⟩
      rcases exists_lowercaseAfter_cons afterCased c rest with ⟨form, cased, hform, hlower⟩
      have hchain : form.IsChain R := by
        rcases hform with rfl | ⟨_, rfl⟩
        · rw [lowerChar]
          split
          · exact List.isChain_pair.mpr hdotted
          · exact .singleton _
        · exact .singleton _
      rw [hlower]
      refine List.isChain_append.mpr ⟨hchain, ih hrest cased, ?_⟩
      intro c' hc' d' hd'
      cases rest with
      | nil => cases hd'
      | cons d rest =>
          rcases exists_lowercaseAfter_cons cased d rest with ⟨other, _, hother, hbehind⟩
          rw [hbehind, List.head?_append_of_ne_nil _ hother.ne_nil] at hd'
          exact hforms (hfirst d rfl) hform hother c' (List.mem_of_getLast? hc') d'
            (List.mem_of_head? hd')

/-!
## Characters without case
-/

/-- A character that keeps its form and has no say in the form of any other. -/
structure IsNeutral (c : Char) : Prop where
  uncased : isCased c = false
  notIgnorable : isCaseIgnorable c = false
  lowerChar_eq : lowerChar c = [c]

theorem lowerLetter_of_isBlank {c : Char} (h : isBlank c = true) : lowerLetter c = c := by
  rcases (Ranges.contains_iff blankRanges_isIncreasing).mp h with ⟨blank, hmem, hlow, hhigh⟩
  have hapart : ∀ run ∈ caseRuns, ∀ blank ∈ blankRanges,
      blank.2 < run.first ∨ run.last < blank.1 := by decide +kernel
  rw [lowerLetter, lowerCodePoint_eq_self, Char.ofNat_toNat]
  intro run hrun
  have := hapart run hrun blank hmem
  omega

theorem IsNeutral.form_eq {c : Char} (h : IsNeutral c) {form : Text} (hform : IsLowerForm c form) :
    form = [c] := by
  rcases hform with rfl | ⟨hsigma, _⟩
  · exact h.lowerChar_eq
  · exact absurd hsigma (ne_capitalSigma_of_uncased h.uncased)

theorem isWordChar_eq_false_of_isBlank {c : Char} (h : isBlank c = true) :
    isWordChar c = false :=
  Ranges.contains_eq_false_of_apart blankRanges_isIncreasing wordRanges_isIncreasing
    (by decide +kernel) h

theorem isBlank_eq_false_of_isWordChar {c : Char} (h : isWordChar c = true) :
    isBlank c = false := by
  apply Bool.eq_false_iff.mpr
  intro hblank
  rw [isWordChar_eq_false_of_isBlank hblank] at h
  cases h

theorem isNeutral_of_isBlank {c : Char} (h : isBlank c = true) : IsNeutral c where
  uncased := Ranges.contains_eq_false_of_apart blankRanges_isIncreasing casedRanges_isIncreasing
    (by decide +kernel) h
  notIgnorable := Ranges.contains_eq_false_of_apart blankRanges_isIncreasing
    caseIgnorableRanges_isIncreasing (by decide +kernel) h
  lowerChar_eq := by
    have hdotted : c ≠ '\u0130' := by
      rintro rfl
      exact absurd h (by decide)
    rw [lowerChar_eq_singleton hdotted, lowerLetter_of_isBlank h]

theorem isNeutral_underscore : IsNeutral '_' where
  uncased := by decide +kernel
  notIgnorable := by decide +kernel
  lowerChar_eq := by decide +kernel

/-- Between characters without case, runs are lowercased by themselves. -/
theorem runs_lowercase {inClass : Char → Bool}
    (hclass : ∀ {c form}, inClass c = true → IsLowerForm c form → ∀ d ∈ form, inClass d = true)
    {text : Text} (hgaps : ∀ c ∈ text, inClass c = false → IsNeutral c) :
    Text.runs inClass (lowercase text) = (Text.runs inClass text).map lowercase := by
  have hrun : ∀ run : Text, (∀ c ∈ run, inClass c = true) →
      Text.runs inClass (lowercase run) = (Text.runs inClass run).map lowercase := by
    intro run hrun
    by_cases hne : run = []
    · subst hne
      rfl
    · have hlower : ∀ d ∈ lowercase run, inClass d = true := by
        intro d hd
        rcases exists_of_mem_lowercaseAfter hd with ⟨c, hc, form, hform, hmem⟩
        exact hclass (hrun c hc) hform d hmem
      rw [Text.runs_of_forall (lowercase_ne_nil hne) hlower, Text.runs_of_forall hne hrun]
      rfl
  induction text using Text.induction_at_cuts inClass with
  | whole run hchars => exact hrun run hchars
  | cut run c rest hchars hc ih =>
      rcases List.forall_mem_append.mp hgaps with ⟨_, hbehind⟩
      rcases List.forall_mem_cons.mp hbehind with ⟨hneutral, hrest⟩
      rcases hneutral hc with ⟨hcased, hignorable, hlower⟩
      rw [lowercase_append_cons hcased hignorable, hlower, List.singleton_append,
        Text.runs_append_cons hc, Text.runs_append_cons hc, hrun run hchars, ih hrest,
        List.map_append]

end Unicode
end PaperFilter
