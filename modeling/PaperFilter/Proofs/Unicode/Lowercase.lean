import PaperFilter.Unicode.Lowercase

/-!
# Lowercase letter by letter

A code point that lies in no run of the table of letters stays as it is.  The two letters that need
more than the table are the capital sigma, whose form depends on its neighbours, and the dotted
capital I, which becomes two characters; a text without them is lowercased letter by letter.  A
character that is neither cased nor case-ignorable, such as a space, keeps the capital sigmas on its
two sides from seeing each other.
-/

namespace PaperFilter
namespace Unicode

theorem lowerCodePoint_eq_self {runs : List CaseRun} {n : Nat}
    (hruns : ∀ run ∈ runs, n < run.first ∨ run.last < n ∨ (n - run.first) % run.step ≠ 0) :
    lowerCodePoint runs n = n := by
  induction runs with
  | nil => rfl
  | cons run rest ih =>
      rcases List.forall_mem_cons.mp hruns with ⟨hrun, hrest⟩
      rw [lowerCodePoint]
      split
      · rfl
      · split
        · rw [if_neg (by omega)]
        · exact ih hrest

/-- What a run takes from a range of code points it puts into the range again. -/
def CaseRun.StaysWithin (low high : Nat) (run : CaseRun) : Prop :=
  run.last < low ∨ high < run.first ∨
    (low ≤ run.target ∧
      run.target + (min run.last high - run.first) / run.step * run.step ≤ high)

instance (low high : Nat) (run : CaseRun) : Decidable (run.StaysWithin low high) :=
  inferInstanceAs (Decidable (_ ∨ _ ∨ _))

theorem CaseRun.StaysWithin.target {low high n : Nat} {run : CaseRun}
    (h : run.StaysWithin low high) (hlow : low ≤ n) (hhigh : n ≤ high) (hfirst : run.first ≤ n)
    (hlast : n ≤ run.last) (hstep : (n - run.first) % run.step = 0) :
    low ≤ run.target + (n - run.first) ∧ run.target + (n - run.first) ≤ high := by
  rcases h with hbefore | hbehind | ⟨htarget, hend⟩
  · omega
  · omega
  · have hmultiple : (n - run.first) / run.step * run.step = n - run.first :=
      Nat.div_mul_cancel (Nat.dvd_of_mod_eq_zero hstep)
    have hle : n - run.first ≤ min run.last high - run.first := by omega
    have hsteps := Nat.mul_le_mul_right run.step (Nat.div_le_div_right (c := run.step) hle)
    omega

theorem lowerCodePoint_within {runs : List CaseRun} {low high n : Nat}
    (hruns : ∀ run ∈ runs, run.StaysWithin low high) (hlow : low ≤ n) (hhigh : n ≤ high) :
    low ≤ lowerCodePoint runs n ∧ lowerCodePoint runs n ≤ high := by
  induction runs with
  | nil => exact ⟨hlow, hhigh⟩
  | cons run rest ih =>
      rcases List.forall_mem_cons.mp hruns with ⟨hrun, hrest⟩
      rw [lowerCodePoint]
      split
      · exact ⟨hlow, hhigh⟩
      · next hfirst =>
          split
          · next hlast =>
              split
              · next hstep => exact hrun.target hlow hhigh (Nat.le_of_not_lt hfirst) hlast hstep
              · exact ⟨hlow, hhigh⟩
          · exact ih hrest

/-- A code point stays as it is or lies in a run and is counted off from where the run leads. -/
theorem lowerCodePoint_eq_or (runs : List CaseRun) (n : Nat) :
    lowerCodePoint runs n = n ∨
      ∃ run ∈ runs, run.first ≤ n ∧ n ≤ run.last ∧ (n - run.first) % run.step = 0 ∧
        lowerCodePoint runs n = run.target + (n - run.first) := by
  induction runs with
  | nil => exact Or.inl rfl
  | cons run rest ih =>
      rw [lowerCodePoint]
      split
      · exact Or.inl rfl
      · next hfirst =>
          split
          · next hlast =>
              split
              · next hstep =>
                  exact Or.inr ⟨run, List.mem_cons_self, Nat.le_of_not_lt hfirst, hlast, hstep, rfl⟩
              · exact Or.inl rfl
          · rcases ih with hsame | ⟨other, hother, hlower⟩
            · exact Or.inl hsame
            · exact Or.inr ⟨other, List.mem_cons_of_mem run hother, hlower⟩

/-- The lowercase form of a character that has a single one. -/
def lowerLetter (c : Char) : Char :=
  Char.ofNat (lowerCodePoint caseRuns c.toNat)

theorem lowerChar_eq_singleton {c : Char} (h : c ≠ '\u0130') : lowerChar c = [lowerLetter c] := by
  rw [lowerChar, if_neg h, lowerLetter]

/-- Such letters need no look at what stands around them. -/
theorem lowercaseAfter_eq_map {text : Text} (h : ∀ c ∈ text, c ≠ capitalSigma ∧ c ≠ '\u0130')
    (afterCased : Bool) : lowercaseAfter afterCased text = text.map lowerLetter := by
  induction text generalizing afterCased with
  | nil => rfl
  | cons c rest ih =>
      rcases List.forall_mem_cons.mp h with ⟨⟨hsigma, hdotted⟩, hrest⟩
      rw [lowercaseAfter, if_neg hsigma, lowerChar_eq_singleton hdotted, ih hrest]
      rfl

theorem lowercase_eq_map {text : Text} (h : ∀ c ∈ text, c ≠ capitalSigma ∧ c ≠ '\u0130') :
    lowercase text = text.map lowerLetter :=
  lowercaseAfter_eq_map h false

/-- A text of characters that are their own lowercase form is in lowercase. -/
theorem lowercase_eq_self {text : Text} (h : ∀ c ∈ text, lowerChar c = [c]) :
    lowercase text = text := by
  have hne : ∀ c ∈ text, c ≠ capitalSigma ∧ c ≠ '\u0130' := by
    intro c hc
    constructor
    · rintro rfl
      exact absurd (h _ hc) (by decide +kernel)
    · rintro rfl
      exact absurd (h _ hc) (by decide)
  have hletters : ∀ c ∈ text, lowerLetter c = id c := by
    intro c hc
    have hform := h c hc
    rw [lowerChar_eq_singleton (hne c hc).right] at hform
    exact (List.cons.inj hform).left
  rw [lowercase_eq_map hne, List.map_congr_left hletters, List.map_id]

/-- On ASCII the table has the letters that core has. -/
theorem lowerLetter_of_ascii {c : Char} (h : c.toNat < 128) : lowerLetter c = c.toLower := by
  have hall : ∀ n < 128, Char.ofNat (lowerCodePoint caseRuns n) = (Char.ofNat n).toLower := by
    decide +kernel
  have hc := hall c.toNat h
  rw [Char.ofNat_toNat] at hc
  exact hc

theorem toNat_lowerLetter (c : Char) :
    (lowerLetter c).toNat = lowerCodePoint caseRuns c.toNat := by
  have hruns : ∀ run ∈ caseRuns, run.target + (run.last - run.first) < 0xd800 ∨
      0xdfff < run.target ∧ run.target + (run.last - run.first) < 0x110000 := by decide +kernel
  rcases lowerCodePoint_eq_or caseRuns c.toNat with hsame | ⟨run, hrun, _, hlast, _, hlower⟩
  · rw [lowerLetter, hsame, Char.ofNat_toNat]
  · have hvalid : (lowerCodePoint caseRuns c.toNat).isValidChar := by
      have := hruns run hrun
      rw [hlower, Nat.isValidChar]
      omega
    rw [lowerLetter, Char.ofNat, dif_pos hvalid]
    rfl

/-- No code point that the first run puts is one that the second takes: their ranges lie apart, or
the first puts every other code point and the second takes those between. -/
def CaseRun.leadsPast (run other : CaseRun) : Bool :=
  (run.target + (run.last - run.first)).blt other.first || other.last.blt run.target ||
    (other.step == 2 && (run.step == 2 || run.first == run.last) &&
      (run.target + other.first) % 2 == 1)

theorem CaseRun.not_taken_of_leadsPast {run other : CaseRun} (h : run.leadsPast other = true)
    {n : Nat} (hlast : n ≤ run.last) (hstep : (n - run.first) % run.step = 0) :
    run.target + (n - run.first) < other.first ∨ other.last < run.target + (n - run.first) ∨
      (run.target + (n - run.first) - other.first) % other.step ≠ 0 := by
  simp only [leadsPast, Bool.or_eq_true, Bool.and_eq_true, Nat.blt_eq, beq_iff_eq] at h
  rcases h with (hbefore | hbehind) | ⟨⟨hother, hrun⟩, hodd⟩
  · omega
  · omega
  · have heven : (n - run.first) % 2 = 0 := by
      rcases hrun with htwo | hone
      · rwa [htwo] at hstep
      · omega
    rw [hother]
    omega

/-- What the table puts it does not take again. -/
theorem lowerCodePoint_idem (n : Nat) :
    lowerCodePoint caseRuns (lowerCodePoint caseRuns n) = lowerCodePoint caseRuns n := by
  have hruns : (caseRuns.all fun run => caseRuns.all run.leadsPast) = true := by decide +kernel
  rcases lowerCodePoint_eq_or caseRuns n with hsame | ⟨run, hrun, _, hlast, hstep, hlower⟩
  · rw [hsame, hsame]
  · rw [hlower]
    apply lowerCodePoint_eq_self
    intro other hother
    have hpast := List.all_eq_true.mp (List.all_eq_true.mp hruns run hrun) other hother
    exact CaseRun.not_taken_of_leadsPast hpast hlast hstep

theorem lowerLetter_idem (c : Char) : lowerLetter (lowerLetter c) = lowerLetter c := by
  rw [lowerLetter, toNat_lowerLetter, lowerCodePoint_idem, lowerLetter]

theorem lowerLetter_ne_dotted {c : Char} (h : c ≠ '\u0130') : lowerLetter c ≠ '\u0130' := by
  have hruns : ∀ run ∈ caseRuns, run.target + (run.last - run.first) < '\u0130'.toNat ∨
      '\u0130'.toNat < run.target := by decide +kernel
  intro hdotted
  have hnat := congrArg Char.toNat hdotted
  rw [toNat_lowerLetter] at hnat
  rcases lowerCodePoint_eq_or caseRuns c.toNat with hsame | ⟨run, hrun, _, _, _, hlower⟩
  · rw [lowerLetter, hsame, Char.ofNat_toNat] at hdotted
    exact h hdotted
  · have := hruns run hrun
    omega

/-- Below the small letters every letter is its own lowercase form. -/
theorem lowerLetter_of_lt {c : Char} (h : (lowerLetter c).toNat < 'a'.toNat) :
    lowerLetter c = c := by
  have htargets : ∀ run ∈ caseRuns, 'a'.toNat ≤ run.target := by decide +kernel
  rcases lowerCodePoint_eq_or caseRuns c.toNat with hsame | ⟨run, hrun, _, _, _, hlower⟩
  · rw [lowerLetter, hsame, Char.ofNat_toNat]
  · have := htargets run hrun
    rw [toNat_lowerLetter] at h
    omega

theorem lowerLetter_eq_star_iff {c : Char} : lowerLetter c = '*' ↔ c = '*' := by
  constructor
  · intro h
    have hsame : lowerLetter c = c := by
      apply lowerLetter_of_lt
      rw [h]
      decide
    exact hsame.symm.trans h
  · rintro rfl
    decide

theorem lowerChar_ne_nil (c : Char) : lowerChar c ≠ [] := by
  rw [lowerChar]
  split
  · exact List.cons_ne_nil _ _
  · exact List.cons_ne_nil _ _

theorem lowercase_ne_nil {text : Text} (h : text ≠ []) : lowercase text ≠ [] := by
  rcases List.exists_cons_of_ne_nil h with ⟨c, rest, rfl⟩
  rw [lowercase, lowercaseAfter]
  apply List.append_ne_nil_of_left_ne_nil
  split
  · split
    · exact List.cons_ne_nil _ _
    · exact lowerChar_ne_nil c
  · exact lowerChar_ne_nil c

/-!
## Characters that stand between letters
-/

section

variable {c : Char}

theorem ne_capitalSigma_of_uncased (h : isCased c = false) : c ≠ capitalSigma := by
  intro hsigma
  have hcased : isCased capitalSigma = true := by decide +kernel
  rw [hsigma, hcased] at h
  cases h

theorem beginsCased_append_cons (hcased : isCased c = false)
    (hignorable : isCaseIgnorable c = false) (front rest : Text) :
    beginsCased (front ++ c :: rest) = beginsCased front := by
  induction front with
  | nil => simp [beginsCased, hcased, hignorable]
  | cons d front ih =>
      rw [beginsCased, beginsCased] at ih ⊢
      cases hd : isCaseIgnorable d with
      | true =>
          rw [List.cons_append, List.dropWhile_cons_of_pos hd, List.dropWhile_cons_of_pos hd]
          exact ih
      | false =>
          have hstop : ¬ isCaseIgnorable d = true := Bool.eq_false_iff.mp hd
          rw [List.cons_append, List.dropWhile_cons_of_neg hstop, List.dropWhile_cons_of_neg hstop]

theorem lowercaseAfter_append_cons (hcased : isCased c = false)
    (hignorable : isCaseIgnorable c = false) (afterCased : Bool) (front rest : Text) :
    lowercaseAfter afterCased (front ++ c :: rest) =
      lowercaseAfter afterCased front ++ (lowerChar c ++ lowercase rest) := by
  induction front generalizing afterCased with
  | nil =>
      rw [List.nil_append, lowercaseAfter, List.nil_append, lowercaseAfter,
        if_neg (ne_capitalSigma_of_uncased hcased), hignorable, if_neg Bool.false_ne_true, hcased]
      rfl
  | cons d front ih =>
      rw [List.cons_append, lowercaseAfter, lowercaseAfter, ih,
        beginsCased_append_cons hcased hignorable, List.append_assoc]

/-- The text in front of such a character and the text behind it are lowercased by themselves. -/
theorem lowercase_append_cons (hcased : isCased c = false) (hignorable : isCaseIgnorable c = false)
    (front rest : Text) :
    lowercase (front ++ c :: rest) = lowercase front ++ (lowerChar c ++ lowercase rest) :=
  lowercaseAfter_append_cons hcased hignorable false front rest

end

theorem lowercase_append_space (front rest : Text) :
    lowercase (front ++ ' ' :: rest) = lowercase front ++ ' ' :: lowercase rest := by
  have hcased : isCased ' ' = false := by decide +kernel
  have hignorable : isCaseIgnorable ' ' = false := by decide +kernel
  exact lowercase_append_cons hcased hignorable front rest

/-- A space at either end has no say in what a text is in lowercase. -/
theorem lowercase_padded {before after : Text} (hbefore : before = [] ∨ before = [' '])
    (hafter : after = [] ∨ after = [' ']) (text : Text) :
    lowercase (before ++ (text ++ after)) = before ++ (lowercase text ++ after) := by
  have hbehind : lowercase (text ++ after) = lowercase text ++ after := by
    rcases hafter with rfl | rfl
    · rw [List.append_nil, List.append_nil]
    · exact lowercase_append_space text []
  rw [← hbehind]
  rcases hbefore with rfl | rfl
  · rfl
  · exact lowercase_append_space [] (text ++ after)

end Unicode
end PaperFilter
