import PaperFilter.Document.Normal
import PaperFilter.Proofs.Text.Replacement
import PaperFilter.Proofs.Unicode.Classes

/-!
# Hyphens of an abstract

Of an abstract every stretch of non-word characters that ends in a hyphen, and is not the hyphen
alone, is replaced by a space, the longest one at each place.  Such a stretch begins with a maximal
run of non-word characters and takes in all of it through the last hyphen, and no other begins
behind it in the same run.  So the hyphens that are left begin the text or follow a word, and
neither lowercase nor the spacing brings others about.
-/

namespace PaperFilter
namespace Normal

open Unicode

/-!
## What is replaced
-/

/-- Non-word characters, one at least, and a hyphen behind them. -/
def LeadsToHyphen (part : Text) : Prop :=
  ∃ front, part = front ++ ['-'] ∧ front ≠ [] ∧ ∀ c ∈ front, isNonWord c = true

/--
A run of non-word characters with a space for all of it through its last hyphen; a run without a
hyphen, or with one at its beginning only, is kept.
-/
inductive StripsRun : Text → Text → Prop where
  | kept {run : Text} : '-' ∉ run.tail → StripsRun run run
  | stripped {front behind : Text} :
      front ≠ [] → '-' ∉ behind → StripsRun (front ++ '-' :: behind) (' ' :: behind)

/-- A text in which each maximal run of non-word characters is stripped.  Between two word
characters next to each other the run is empty. -/
inductive StripsRuns : Text → Text → Prop where
  | last {run stripped : Text} :
      (∀ c ∈ run, isNonWord c = true) → StripsRun run stripped → StripsRuns run stripped
  | word {run stripped rest out : Text} {c : Char} :
      (∀ d ∈ run, isNonWord d = true) → StripsRun run stripped → isWordChar c = true →
        StripsRuns rest out → StripsRuns (run ++ c :: rest) (stripped ++ c :: out)

theorem isNonWord_hyphen : isNonWord '-' = true := by decide +kernel

theorem isNonWord_eq_false_iff {c : Char} : isNonWord c = false ↔ isWordChar c = true :=
  iff_of_eq (Bool.not_eq_false' _)

/-!
## One run
-/

theorem exists_last_hyphen {text : Text} (h : '-' ∈ text) :
    ∃ front behind, text = front ++ '-' :: behind ∧ '-' ∉ behind := by
  rcases List.eq_append_cons_of_mem (List.mem_reverse.mpr h) with ⟨behind, front, hsplit, hbehind⟩
  refine ⟨front.reverse, behind.reverse, ?_, mt List.mem_reverse.mp hbehind⟩
  rw [← List.reverse_reverse text, hsplit]
  simp

theorem behindLastHyphen_append {behind : Text} (h : '-' ∉ behind) (front : Text) :
    behindLastHyphen (front ++ '-' :: behind) = behind := by
  have hbehind : ∀ c ∈ behind.reverse, (c != '-') = true := by
    intro c hc
    apply bne_iff_ne.mpr
    rintro rfl
    exact h (List.mem_reverse.mp hc)
  rw [behindLastHyphen, List.reverse_append, List.reverse_cons, List.append_assoc,
    List.takeWhile_append_of_pos hbehind, List.singleton_append,
    List.takeWhile_cons_of_neg (by simp), List.append_nil, List.reverse_reverse]

theorem StripsRun.eq_withoutHyphens {run stripped : Text} (h : StripsRun run stripped) :
    stripped = withoutHyphens run := by
  cases h with
  | kept hnone =>
      cases run with
      | nil => rfl
      | cons first others =>
          have hothers : '-' ∉ others := hnone
          rw [withoutHyphens, List.contains_eq_mem, decide_eq_false hothers]
          rfl
  | @stripped front behind hne hnone =>
      rcases List.exists_cons_of_ne_nil hne with ⟨first, others, rfl⟩
      have hmem : '-' ∈ others ++ '-' :: behind := List.mem_append_right _ List.mem_cons_self
      rw [List.cons_append, withoutHyphens, List.contains_eq_mem, decide_eq_true hmem, if_pos rfl,
        behindLastHyphen_append hnone]

theorem stripsRun_withoutHyphens (run : Text) : StripsRun run (withoutHyphens run) := by
  by_cases h : '-' ∈ run.tail
  · rcases exists_last_hyphen h with ⟨others, behind, htail, hnone⟩
    have hrun : ∃ first, run = (first :: others) ++ '-' :: behind := by
      cases run with
      | nil => cases h
      | cons first tail => exact ⟨first, congrArg (List.cons first) htail⟩
    rcases hrun with ⟨first, rfl⟩
    have hstrips := StripsRun.stripped (List.cons_ne_nil first others) hnone
    rwa [hstrips.eq_withoutHyphens] at hstrips
  · have hkept := StripsRun.kept h
    rwa [← hkept.eq_withoutHyphens]

theorem StripsRun.not_mem_tail {run stripped : Text} (h : StripsRun run stripped) :
    '-' ∉ stripped.tail := by
  cases h with
  | kept hnone => exact hnone
  | stripped _ hnone => exact hnone

/-!
## Run by run
-/

/-- The hyphens that a text leads up to taken out of it, run by run. -/
def withoutHyphenRuns (text : Text) : Text :=
  Text.mapRuns isNonWord withoutHyphens text

theorem withoutHyphenRuns_of_forall {run : Text} (hrun : ∀ c ∈ run, isNonWord c = true) :
    withoutHyphenRuns run = withoutHyphens run := by
  by_cases hne : run = []
  · subst hne
    rw [withoutHyphenRuns, Text.mapRuns]
    rfl
  · exact Text.mapRuns_of_forall withoutHyphens hne hrun

theorem withoutHyphenRuns_append_cons {c : Char} (hc : isNonWord c = false) (front rest : Text) :
    withoutHyphenRuns (front ++ c :: rest) =
      withoutHyphenRuns front ++ c :: withoutHyphenRuns rest :=
  Text.mapRuns_append_cons hc withoutHyphens front rest

theorem stripsRuns_iff {text out : Text} : StripsRuns text out ↔ out = withoutHyphenRuns text := by
  constructor
  · intro h
    induction h with
    | last hrun hstrips => rw [withoutHyphenRuns_of_forall hrun, hstrips.eq_withoutHyphens]
    | word hrun hstrips hc _ ih =>
        rw [withoutHyphenRuns_append_cons (isNonWord_eq_false_iff.mpr hc),
          withoutHyphenRuns_of_forall hrun, hstrips.eq_withoutHyphens, ih]
  · rintro rfl
    induction text using Text.induction_at_cuts isNonWord with
    | whole run hrun =>
        rw [withoutHyphenRuns_of_forall hrun]
        exact .last hrun (stripsRun_withoutHyphens run)
    | cut run c rest hrun hc ih =>
        rw [withoutHyphenRuns_append_cons hc, withoutHyphenRuns_of_forall hrun]
        exact .word hrun (stripsRun_withoutHyphens run) (isNonWord_eq_false_iff.mp hc) ih

/-!
## Match by match
-/

theorem LeadsToHyphen.forall_isNonWord {part : Text} (h : LeadsToHyphen part) :
    ∀ c ∈ part, isNonWord c = true := by
  rcases h with ⟨front, rfl, _, hfront⟩
  exact List.forall_mem_append.mpr ⟨hfront, List.forall_mem_singleton.mpr isNonWord_hyphen⟩

theorem LeadsToHyphen.mem_tail {part run : Text} (h : LeadsToHyphen part) (hbegins : part <+: run) :
    '-' ∈ run.tail := by
  rcases h with ⟨front, rfl, hne, _⟩
  rcases hbegins with ⟨rest, rfl⟩
  rcases List.exists_cons_of_ne_nil hne with ⟨first, others, rfl⟩
  simp

/-- No match goes on behind the last hyphen. -/
theorem LeadsToHyphen.length_le {part front rest : Text} (h : LeadsToHyphen part)
    (hbegins : part <+: (front ++ ['-']) ++ rest) (hnone : '-' ∉ rest) :
    part.length ≤ (front ++ ['-']).length := by
  rcases List.prefix_or_prefix_of_prefix hbegins (List.prefix_append _ rest) with
    hshorter | ⟨more, rfl⟩
  · exact hshorter.length_le
  · have hmore := (List.prefix_append_right_inj _).mp hbegins
    rcases List.eq_nil_or_concat more with rfl | ⟨letters, c, rfl⟩
    · rw [List.append_nil]
    · rcases h with ⟨start, hend, _⟩
      rw [List.concat_eq_append, ← List.append_assoc] at hend
      rcases List.append_inj' hend rfl with ⟨_, hlast⟩
      cases hlast
      have hmem : '-' ∈ letters.concat '-' := by simp
      exact absurd (hmore.mem hmem) hnone

section

variable {run behind out : Text} (hrun : ∀ c ∈ run, isNonWord c = true)
  (hbehind : behind.head?.any isNonWord = false)
  (h : Text.ReplacesAll LeadsToHyphen [' '] behind out)
include hbehind h

/-- No match begins in a run without a hyphen behind its first character. -/
theorem replacesAll_of_not_mem (hnone : '-' ∉ run.tail) :
    Text.ReplacesAll LeadsToHyphen [' '] (run ++ behind) (run ++ out) := by
  induction run with
  | nil => exact h
  | cons c rest ih =>
      apply Text.ReplacesAll.keep
      · intro part hbegins hleads
        have hwithin : part <+: c :: rest :=
          Text.prefix_of_prefix_append hbegins hleads.forall_isNonWord hbehind
        exact hnone (hleads.mem_tail hwithin)
      · exact ih fun hmem => hnone (List.mem_of_mem_tail hmem)

include hrun

/-- Of a run its part through the last hyphen is the one match, if another character is in front. -/
theorem replacesAll_run :
    Text.ReplacesAll LeadsToHyphen [' '] (run ++ behind) (withoutHyphens run ++ out) := by
  have hstrips := stripsRun_withoutHyphens run
  generalize withoutHyphens run = stripped at hstrips
  cases hstrips with
  | kept hnone => exact replacesAll_of_not_mem hbehind h hnone
  | @stripped front rest hne hnone =>
      have hleads : LeadsToHyphen (front ++ ['-']) :=
        ⟨front, rfl, hne, (List.forall_mem_append.mp hrun).left⟩
      have hmatch : Text.LongestMatch LeadsToHyphen ((front ++ '-' :: rest) ++ behind)
          (front ++ ['-']) (rest ++ behind) := by
        refine ⟨by simp, by simp, hleads, ?_⟩
        intro other hbegins hother
        have hwithin := Text.prefix_of_prefix_append hbegins hother.forall_isNonWord hbehind
        rw [List.append_cons] at hwithin
        exact hother.length_le hwithin hnone
      have hrest := replacesAll_of_not_mem hbehind h
        (fun hmem : '-' ∈ rest.tail => hnone (List.mem_of_mem_tail hmem))
      exact .replace hmatch hrest

end

theorem replacesAll_withoutHyphenRuns (text : Text) :
    Text.ReplacesAll LeadsToHyphen [' '] text (withoutHyphenRuns text) := by
  induction text using Text.induction_at_cuts isNonWord with
  | whole run hrun =>
      have hreplaces := @replacesAll_run run [] [] hrun rfl .nil
      rwa [List.append_nil, List.append_nil, ← withoutHyphenRuns_of_forall hrun] at hreplaces
  | cut run c rest hrun hc ih =>
      rw [withoutHyphenRuns_append_cons hc, withoutHyphenRuns_of_forall hrun]
      have hhead : (c :: rest).head?.any isNonWord = false := hc
      apply replacesAll_run hrun hhead
      apply Text.ReplacesAll.keep _ ih
      intro part hbegins hleads
      -- Such a match would be a prefix of the empty run in front of the word character.
      have hnone := @Text.prefix_of_prefix_append _ part [] _ hbegins hleads.forall_isNonWord hhead
      exact absurd (hleads.mem_tail hnone) List.not_mem_nil

/-!
## Hyphens that are left
-/

/-- A hyphen follows no other character than a word character. -/
def MayFollow (c d : Char) : Prop :=
  d = '-' → isWordChar c = true

theorem isChain_of_not_mem_tail {text : Text} (h : '-' ∉ text.tail) : text.IsChain MayFollow := by
  induction text with
  | nil => exact .nil
  | cons c rest ih =>
      refine List.isChain_cons.mpr ⟨?_, ih fun hmem => h (List.mem_of_mem_tail hmem)⟩
      rintro d hd rfl
      exact absurd (List.mem_of_head? hd) h

theorem isChain_withoutHyphenRuns (text : Text) : (withoutHyphenRuns text).IsChain MayFollow := by
  have hrun : ∀ run, (∀ c ∈ run, isNonWord c = true) →
      (withoutHyphenRuns run).IsChain MayFollow := by
    intro run hrun
    rw [withoutHyphenRuns_of_forall hrun]
    exact isChain_of_not_mem_tail (stripsRun_withoutHyphens run).not_mem_tail
  induction text using Text.induction_at_cuts isNonWord with
  | whole run hchars => exact hrun run hchars
  | cut run c rest hchars hc ih =>
      rw [withoutHyphenRuns_append_cons hc]
      have hword := isNonWord_eq_false_iff.mp hc
      refine List.isChain_append.mpr ⟨hrun run hchars, List.isChain_cons.mpr ⟨?_, ih⟩, ?_⟩
      · exact fun _ _ _ => hword
      · rintro _ _ _ ⟨⟩ rfl
        rw [isNonWord_hyphen] at hc
        cases hc

/-- What becomes a hyphen was one, and what was a word character before it is one still. -/
theorem isChain_lowercase {text : Text} (h : text.IsChain MayFollow) :
    (lowercase text).IsChain MayFollow := by
  apply isChain_lowercaseAfter _ (fun hhyphen => absurd hhyphen (by decide)) h
  rintro c d form other hfollow hform hother c' hc' _ hd' rfl
  exact hform.isWordChar (hfollow (hother.eq_of_mem hd' (by decide))) c' hc'

/-- A text with one space for each run of blanks. -/
def evened (text : Text) : Text :=
  Text.mapRuns isBlank (fun _ => [' ']) text

theorem isChain_evened {text : Text} (h : text.IsChain MayFollow) :
    (evened text).IsChain MayFollow := by
  apply Text.isChain_mapRuns_separator
  apply h.imp
  rintro c d hfollow _ hhyphen
  have hd : isBlank d = false := by
    apply Bool.eq_false_iff.mpr
    intro hblank
    rw [Text.standIn_of_mem hblank] at hhyphen
    cases hhyphen
  rw [Text.standIn_of_not hd] at hhyphen
  have hword := hfollow hhyphen
  rwa [Text.standIn_of_not (isBlank_eq_false_of_isWordChar hword)]

/-- Evened out, a text is its pieces with one space between each two and perhaps at the ends. -/
theorem evened_eq (text : Text) :
    evened text =
      Text.edge (fun c => !isBlank c) [' '] text.head? ++
        (Text.joinWith [' '] (blankSeparated text) ++
          if blankSeparated text = [] then []
          else Text.edge (fun c => !isBlank c) [' '] text.getLast?) := by
  have heven := Text.mapRuns_eq_joinWith_runs (fun c => !isBlank c) [' '] text
  simp only [Bool.not_not] at heven
  exact heven

theorem isChain_ofAbstract (text : Text) : (ofAbstract text).IsChain MayFollow := by
  have hchain := isChain_evened (isChain_lowercase (isChain_withoutHyphenRuns text))
  rw [evened_eq] at hchain
  exact List.IsChain.infix hchain ⟨_, _, List.append_assoc _ _ _⟩

/--
An abstract in normal form is made of the pieces, in lowercase, of the one text that comes of
replacing every longest stretch that leads to a hyphen by a space, and that also comes of stripping
every maximal run of non-word characters.  A hyphen in it is its first character or follows a word
character.
-/
theorem ofAbstract_eq_replaced (text : Text) :
    ∃ replaced,
      (∀ out, Text.ReplacesAll LeadsToHyphen [' '] text out ↔ out = replaced) ∧
      (∀ out, StripsRuns text out ↔ out = replaced) ∧
      ofAbstract text = Text.joinWith [' '] (blankSeparated (lowercase replaced)) ∧
      ∀ front behind, ofAbstract text = front ++ '-' :: behind →
        front = [] ∨ ∃ before c, front = before ++ [c] ∧ isWordChar c = true := by
  refine ⟨withoutHyphenRuns text, (replacesAll_withoutHyphenRuns text).eq_iff,
    fun out => stripsRuns_iff, rfl, ?_⟩
  intro front behind hsplit
  have hchain := isChain_ofAbstract text
  rw [hsplit] at hchain
  rcases List.eq_nil_or_concat front with rfl | ⟨before, c, rfl⟩
  · exact Or.inl rfl
  · rw [List.concat_eq_append, List.append_assoc, List.singleton_append,
      List.isChain_append_cons_cons] at hchain
    exact Or.inr ⟨before, c, List.concat_eq_append, hchain.right.left rfl⟩

/-- A run is taken out through its last hyphen only, and a lone hyphen is kept. -/
example : ofAbstract "--a: -b\t- c-d -".toList = "a b c-d".toList := by cbv

end Normal
end PaperFilter
