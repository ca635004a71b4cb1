import Mathlib.Tactic.IntervalCases
import PaperFilter.Proofs.Front
import PaperFilter.Proofs.Text.Runs
import PaperFilter.Toml.StringReader
import PaperFilter.Toml.Writer

/-!
# Written TOML strings are read back

The two escaped forms can hold every string; the two literal forms are chosen only for strings that
they can hold as they are.  In either triple form up to two quotation marks may stand next to each
other inside the string, at its ends too, and reading never takes them for the marks that close it.
-/

namespace PaperFilter
namespace Toml

/-!
## Characters
-/

theorem isPlain_of_not_isControl {c : Char} (hcontrol : isControl c = false) (hfeed : c ≠ '\n') :
    isPlain c = true := by
  simp only [isControl, Bool.or_eq_false_iff, Bool.and_eq_false_iff, decide_eq_false_iff_not,
    bne_eq_false_iff_eq] at hcontrol
  simp only [isPlain, Bool.or_eq_true, Bool.and_eq_true, decide_eq_true_eq, bne_iff_ne]
  rcases hcontrol with ⟨(hlow | htab) | hcontra, hdelete⟩
  · exact Or.inr ⟨by omega, hdelete⟩
  · exact Or.inl htab
  · exact absurd hcontra hfeed

/-- A character that a string holds as it is, or a carriage return in front of a line feed. -/
theorem ne_return_of_isPlain {c : Char} (h : isPlain c = true) : c ≠ '\r' := by
  rintro rfl
  cases h

/-!
## Escapes
-/

/-- Behind a backslash the text stands for a character, and for no line that goes on. -/
def Escapes (escape : Text) (c : Char) : Prop :=
  ∀ rest, readLineJoin (escape ++ rest) = none ∧
    (readEscape (escape ++ rest)).map Shorter.parts = some (c, rest)

theorem readNewline_eq_none {text : Text} (hfeed : text.head? ≠ some '\n')
    (hreturn : text.head? ≠ some '\r') : readNewline text = none := by
  cases text with
  | nil => rfl
  | cons c rest =>
      rw [readNewline]
      · exact fun _ h => hfeed (congrArg some (List.cons.inj h).left)
      · exact fun _ h => hreturn (congrArg some (List.cons.inj h).left)

theorem readLineJoin_cons {c : Char} (hspace : isSpaceOrFeed c = false) (hreturn : c ≠ '\r')
    (rest : Text) : readLineJoin (c :: rest) = none := by
  simp only [isSpaceOrFeed, Bool.or_eq_false_iff, decide_eq_false_iff_not] at hspace
  rw [readLineJoin, readWhile_cons hspace.left]
  have hnewline : readNewline (c :: rest) = none :=
    readNewline_eq_none (fun h => hspace.right (Option.some.inj h))
      (fun h => hreturn (Option.some.inj h))
  simp only [hnewline]
  rfl

theorem readEscape_control {n : Nat} (h : n < 0x80) (rest : Text) :
    (readEscape ('u' :: '0' :: '0' :: (Nat.digitChar (n / 16)).toUpper ::
      (Nat.digitChar (n % 16)).toUpper :: rest)).map Shorter.parts = some (Char.ofNat n, rest) := by
  interval_cases n <;> rfl

theorem escapes_letter {letter c : Char} (hspace : isSpaceOrFeed letter = false)
    (hreturn : letter ≠ '\r')
    (hread : ∀ rest, (readEscape (letter :: rest)).map Shorter.parts = some (c, rest)) :
    Escapes [letter] c :=
  fun rest => ⟨readLineJoin_cons hspace hreturn rest, hread rest⟩

theorem escapes_unicodeEscape {c : Char} (hcontrol : isControl c = true) :
    ∃ behind, unicodeEscape c = '\\' :: behind ∧ Escapes behind c := by
  refine ⟨_, rfl, fun rest => ⟨readLineJoin_cons rfl (by decide) _, ?_⟩⟩
  have hlow : c.toNat < 0x80 := by
    simp only [isControl, Bool.or_eq_true, Bool.and_eq_true, decide_eq_true_eq] at hcontrol
    omega
  have hread := readEscape_control hlow rest
  rwa [Char.ofNat_toNat] at hread

/-- A character is written as itself, or as an escape that is read as the character. -/
theorem escape_cases {c : Char} (hfeed : c ≠ '\n') :
    (escape c = [c] ∧ c ≠ '\\' ∧ isPlain c = true) ∨
      ∃ behind, escape c = '\\' :: behind ∧ Escapes behind c := by
  rw [escape]
  split
  · next hc =>
      subst hc
      exact .inr ⟨_, rfl, escapes_letter rfl (by decide) fun _ => rfl⟩
  split
  · next hc =>
      subst hc
      exact .inr ⟨_, rfl, escapes_letter rfl (by decide) fun _ => rfl⟩
  split
  · next hc =>
      subst hc
      exact .inr ⟨_, rfl, escapes_letter rfl (by decide) fun _ => rfl⟩
  split
  · next hc =>
      subst hc
      exact .inr ⟨_, rfl, escapes_letter rfl (by decide) fun _ => rfl⟩
  split
  · next hc =>
      subst hc
      exact .inr ⟨_, rfl, escapes_letter rfl (by decide) fun _ => rfl⟩
  next hbackslash =>
    split
    · next hcontrol => exact .inr (escapes_unicodeEscape hcontrol)
    · next hcontrol =>
        exact .inl ⟨rfl, hbackslash,
          isPlain_of_not_isControl (Bool.eq_false_iff.mpr hcontrol) hfeed⟩

/-- The same on one line, where quotation marks and line feeds are escaped as well. -/
theorem escapeInLine_cases (c : Char) :
    (escapeInLine c = [c] ∧ c ≠ '"' ∧ c ≠ '\\' ∧ isPlain c = true) ∨
      ∃ behind, escapeInLine c = '\\' :: behind ∧ Escapes behind c := by
  rw [escapeInLine]
  split
  · next hc =>
      subst hc
      exact .inr ⟨_, rfl, escapes_letter rfl (by decide) fun _ => rfl⟩
  next hquote =>
    split
    · next hc =>
      subst hc
      exact .inr ⟨_, rfl, escapes_letter rfl (by decide) fun _ => rfl⟩
    · next hfeed =>
        rcases escape_cases hfeed with ⟨hplain, hbackslash, hchar⟩ | hescaped
        · exact .inl ⟨hplain, hquote, hbackslash, hchar⟩
        · exact .inr hescaped

section

variable {mark c : Char} {escapes : Bool} {rest others behind : Text}

/-!
## One line
-/

theorem readLine_mark (mark : Char) (escapes : Bool) (rest : Text) :
    (readLine mark escapes (mark :: rest)).map Shorter.parts = some ([], rest) := by
  rw [readLine, if_pos rfl]
  rfl

theorem readLine_plain (hmark : c ≠ mark) (hescape : (escapes && c = '\\') = false)
    (hplain : isPlain c = true)
    (h : (readLine mark escapes rest).map Shorter.parts = some (others, behind)) :
    (readLine mark escapes (c :: rest)).map Shorter.parts = some (c :: others, behind) := by
  obtain ⟨_, hread⟩ := exists_of_map_parts h
  rw [readLine, if_neg hmark, if_neg (Bool.eq_false_iff.mp hescape), if_pos hplain, hread]
  rfl

theorem readLine_escape {escape : Text} (hescape : Escapes escape c)
    (h : (readLine '"' true rest).map Shorter.parts = some (others, behind)) :
    (readLine '"' true ('\\' :: (escape ++ rest))).map Shorter.parts =
      some (c :: others, behind) := by
  obtain ⟨_, hread⟩ := exists_of_map_parts h
  obtain ⟨_, hescaped⟩ := exists_of_map_parts (hescape rest).right
  rw [readLine, if_neg (by decide), if_pos (by decide), hescaped]
  simp only [Option.bind_eq_bind, Option.bind_some, hread]
  rfl

theorem readLine_escapeInLine (c : Char)
    (h : (readLine '"' true rest).map Shorter.parts = some (others, behind)) :
    (readLine '"' true (escapeInLine c ++ rest)).map Shorter.parts =
      some (c :: others, behind) := by
  rcases escapeInLine_cases c with ⟨hplain, hquote, hbackslash, hchar⟩ | ⟨escape, hescape, hreads⟩
  · rw [hplain]
    exact readLine_plain hquote (by simp [hbackslash]) hchar h
  · rw [hescape]
    exact readLine_escape hreads h

theorem readLine_basic (text suffix : Text) :
    (readLine '"' true (text.flatMap escapeInLine ++ '"' :: suffix)).map Shorter.parts =
      some (text, suffix) := by
  induction text with
  | nil => exact readLine_mark '"' true suffix
  | cons c text ih =>
      rw [List.flatMap_cons, List.append_assoc]
      exact readLine_escapeInLine c ih

theorem readLine_literal {text : Text}
    (htext : ∀ c ∈ text, c ≠ '\'' ∧ isPlain c = true) (suffix : Text) :
    (readLine '\'' false (text ++ '\'' :: suffix)).map Shorter.parts = some (text, suffix) := by
  induction text with
  | nil => exact readLine_mark '\'' false suffix
  | cons c text ih =>
      rcases List.forall_mem_cons.mp htext with ⟨⟨hmark, hplain⟩, hothers⟩
      exact readLine_plain hmark rfl hplain (ih hothers)

/-!
## Several lines
-/

theorem readLines_plain (hmark : c ≠ mark) (hfeed : c ≠ '\n')
    (hescape : (escapes && c = '\\') = false) (hplain : isPlain c = true)
    (h : (readLines mark escapes rest).map Shorter.parts = some (others, behind)) :
    (readLines mark escapes (c :: rest)).map Shorter.parts = some (c :: others, behind) := by
  obtain ⟨_, hread⟩ := exists_of_map_parts h
  rw [readLines, if_neg hmark, if_neg hfeed, if_neg (ne_return_of_isPlain hplain),
    if_neg (Bool.eq_false_iff.mp hescape), if_pos hplain, hread]
  rfl

theorem readLines_feed (hmark : '\n' ≠ mark)
    (h : (readLines mark escapes rest).map Shorter.parts = some (others, behind)) :
    (readLines mark escapes ('\n' :: rest)).map Shorter.parts = some ('\n' :: others, behind) := by
  obtain ⟨_, hread⟩ := exists_of_map_parts h
  rw [readLines, if_neg hmark, if_pos rfl, hread]
  rfl

theorem readLines_escape {escape : Text} (hescape : Escapes escape c)
    (h : (readLines '"' true rest).map Shorter.parts = some (others, behind)) :
    (readLines '"' true ('\\' :: (escape ++ rest))).map Shorter.parts =
      some (c :: others, behind) := by
  obtain ⟨_, hread⟩ := exists_of_map_parts h
  obtain ⟨_, hescaped⟩ := exists_of_map_parts (hescape rest).right
  rw [readLines, if_neg (by decide), if_neg (by decide), if_neg (by decide), if_pos (by decide),
    (hescape rest).left, hescaped]
  simp only [Option.bind_eq_bind, Option.bind_some, hread]
  rfl

/-- One mark or two in front of something else belong to the string. -/
theorem readLines_marks {count : Nat} (hcount : count ≤ 2) (hrest : rest.head? ≠ some mark)
    (h : (readLines mark escapes rest).map Shorter.parts = some (others, behind)) :
    (readLines mark escapes (List.replicate count mark ++ rest)).map Shorter.parts =
      some (List.replicate count mark ++ others, behind) := by
  cases count with
  | zero => exact h
  | succ count =>
      obtain ⟨_, hread⟩ := exists_of_map_parts h
      have hmarks : readWhile (fun c => decide (c = mark)) (List.replicate count mark ++ rest) =
          ⟨List.replicate count mark, rest, _⟩ :=
        readWhile_append (fun c hc => decide_eq_true (List.eq_of_mem_replicate hc))
          (fun c hc => decide_eq_false fun heq => hrest (heq ▸ hc))
      have hshort : (List.replicate count mark).length < 2 := by
        rw [List.length_replicate]
        omega
      rw [List.replicate_succ, List.cons_append, readLines, if_pos rfl]
      dsimp only
      generalize readWhile _ (List.replicate count mark ++ rest) = marks at hmarks ⊢
      subst hmarks
      rw [if_pos hshort]
      simp only [hread]
      rfl

/-- Of the marks at the end of a string the last three close it. -/
theorem readLines_close {count : Nat} (hcount : count ≤ 2) (hbehind : behind.head? ≠ some mark) :
    (readLines mark escapes (List.replicate (count + 3) mark ++ behind)).map Shorter.parts =
      some (List.replicate count mark, behind) := by
  have hmarks : readWhile (fun c => decide (c = mark))
      (List.replicate (count + 2) mark ++ behind) =
        ⟨List.replicate (count + 2) mark, behind, _⟩ :=
    readWhile_append (fun c hc => decide_eq_true (List.eq_of_mem_replicate hc))
      (fun c hc => decide_eq_false fun heq => hbehind (heq ▸ hc))
  have hlong : ¬ (List.replicate (count + 2) mark).length < 2 := by
    rw [List.length_replicate]
    omega
  have hinside : min ((List.replicate (count + 2) mark).length - 2) 2 = count := by
    rw [List.length_replicate]
    omega
  have hdrop : (List.replicate (count + 2) mark ++ behind).drop (count + 2) = behind :=
    List.drop_left' (List.length_replicate)
  rw [List.replicate_succ, List.cons_append, readLines, if_pos rfl]
  simp only [hmarks, if_neg hlong, hinside]
  simp only [Option.map_some, Shorter.parts, NoLonger.cons, NoLonger.taking, hdrop]

end

theorem ne_of_head_eq {text : Text} {c d : Char} (h : text.head? = some c) (hne : c ≠ d) :
    text.head? ≠ some d :=
  fun hcontra => hne (Option.some.inj (h.symm.trans hcontra))

theorem replicate_succ_append (count : Nat) (c : Char) (rest : Text) :
    List.replicate (count + 1) c ++ rest = List.replicate count c ++ c :: rest := by
  rw [List.replicate_succ', List.append_assoc, List.singleton_append]

theorem hasTriple_of_append {mark : Char} {front text : Text}
    (h : hasTriple mark (front ++ text) = false) : hasTriple mark text = false := by
  apply Bool.eq_false_iff.mpr
  intro hoccurs
  exact Bool.eq_false_iff.mp h (Text.occursIn_append_of_occursIn hoccurs front)

/-- Fewer than two marks may stand in front of another one, if no three are in a row. -/
theorem lt_two_of_hasTriple {mark : Char} {count : Nat} {text : Text} (hcount : count ≤ 2)
    (h : hasTriple mark (List.replicate count mark ++ mark :: text) = false) : count < 2 := by
  apply Nat.lt_of_le_of_ne hcount
  rintro rfl
  exact Bool.eq_false_iff.mp h (Text.occursIn_append [mark, mark, mark] [] text)

/-- An escaped string, of which some marks stand in front. -/
theorem readLines_basic {suffix : Text} (hsuffix : suffix.head? ≠ some '"') (text : Text)
    {count : Nat} (hcount : count ≤ 2) :
    (readLines '"' true (List.replicate count '"' ++ (escapeInLines count text ++
      ('"' :: '"' :: '"' :: suffix)))).map Shorter.parts =
        some (List.replicate count '"' ++ text, suffix) := by
  induction text generalizing count with
  | nil =>
      have hmarks : List.replicate count '"' ++ ('"' :: '"' :: '"' :: suffix) =
          List.replicate (count + 3) '"' ++ suffix := by
        rw [← List.replicate_append_replicate, List.append_assoc]
        rfl
      rw [escapeInLines, List.nil_append, List.append_nil, hmarks]
      exact readLines_close hcount hsuffix
  | cons c text ih =>
      rw [escapeInLines]
      by_cases hquote : c = '"'
      · subst hquote
        rw [if_pos rfl]
        by_cases hfew : count < 2
        · have hmore : count + 1 ≤ 2 := hfew
          have hnext := ih hmore
          rw [replicate_succ_append, replicate_succ_append] at hnext
          rw [if_pos hfew]
          exact hnext
        · rw [if_neg hfew]
          have hmark : Escapes ['"'] '"' := escapes_letter rfl (by decide) fun _ => rfl
          have hnext := readLines_escape hmark (ih (Nat.zero_le 2))
          exact readLines_marks hcount (ne_of_head_eq rfl (by decide)) hnext
      · rw [if_neg hquote]
        by_cases hfeed : c = '\n'
        · subst hfeed
          rw [if_pos rfl]
          exact readLines_marks hcount (ne_of_head_eq rfl (by decide))
            (readLines_feed (by decide) (ih (Nat.zero_le 2)))
        · rw [if_neg hfeed]
          rcases escape_cases hfeed with ⟨hplain, hbackslash, hchar⟩ | ⟨escape, hescape, hreads⟩
          · rw [hplain]
            exact readLines_marks hcount (ne_of_head_eq rfl hquote)
              (readLines_plain hquote hfeed (by simp [hbackslash]) hchar (ih (Nat.zero_le 2)))
          · rw [hescape, List.append_assoc, List.cons_append]
            exact readLines_marks hcount (ne_of_head_eq rfl (by decide))
              (readLines_escape hreads (ih (Nat.zero_le 2)))

/-- A string without three apostrophes in a row, of which some stand in front. -/
theorem readLines_literal {suffix : Text} (hsuffix : suffix.head? ≠ some '\'') {text : Text}
    {count : Nat} (hcount : count ≤ 2)
    (htriple : hasTriple '\'' (List.replicate count '\'' ++ text) = false)
    (htext : ∀ c ∈ text, isControl c = false) :
    (readLines '\'' false (List.replicate count '\'' ++ (text ++
      ('\'' :: '\'' :: '\'' :: suffix)))).map Shorter.parts =
        some (List.replicate count '\'' ++ text, suffix) := by
  induction text generalizing count with
  | nil =>
      have hmarks : List.replicate count '\'' ++ ('\'' :: '\'' :: '\'' :: suffix) =
          List.replicate (count + 3) '\'' ++ suffix := by
        rw [← List.replicate_append_replicate, List.append_assoc]
        rfl
      rw [List.nil_append, List.append_nil, hmarks]
      exact readLines_close hcount hsuffix
  | cons c text ih =>
      rcases List.forall_mem_cons.mp htext with ⟨hcontrol, hothers⟩
      by_cases hquote : c = '\''
      · subst hquote
        have hfew := lt_two_of_hasTriple hcount htriple
        rw [← replicate_succ_append] at htriple
        have hnext := ih hfew htriple hothers
        rw [replicate_succ_append, replicate_succ_append] at hnext
        exact hnext
      · have hrest : hasTriple '\'' text = false := by
          rw [List.append_cons] at htriple
          exact hasTriple_of_append htriple
        have hnone : 0 ≤ 2 := Nat.zero_le 2
        have hnext := ih hnone hrest hothers
        by_cases hfeed : c = '\n'
        · subst hfeed
          exact readLines_marks hcount (ne_of_head_eq rfl (by decide))
            (readLines_feed (by decide) hnext)
        · exact readLines_marks hcount (ne_of_head_eq rfl hquote)
            (readLines_plain hquote hfeed rfl (isPlain_of_not_isControl hcontrol hfeed) hnext)

/-!
## All forms
-/

section

variable {mark : Char} {escapes : Bool} {text rest behind : Text}

/-- A string on one line does not look like the opening of a triple form. -/
theorem readQuotation_of_line {body : Text} (hbody : body.head? ≠ some mark)
    (hrest : rest.head? ≠ some mark) :
    readQuotation mark escapes (body ++ mark :: rest) =
      readLine mark escapes (body ++ mark :: rest) := by
  have hmarks : ∀ more, body ++ mark :: rest ≠ mark :: mark :: more := by
    intro more heq
    cases body with
    | nil => exact hrest (congrArg List.head? (List.cons.inj heq).right)
    | cons c body => exact hbody (congrArg some (List.cons.inj heq).left)
  generalize body ++ mark :: rest = text at hmarks ⊢
  cases text with
  | nil => rfl
  | cons first text =>
      cases text with
      | nil => rfl
      | cons second more =>
          rw [readQuotation, if_neg]
          intro hboth
          simp only [Bool.and_eq_true, decide_eq_true_eq] at hboth
          exact hmarks more (by rw [hboth.left, hboth.right])

theorem readQuotation_of_lines (h : (readLines mark escapes (skipFirstNewline rest).rest).map
      Shorter.parts = some (text, behind)) :
    (readQuotation mark escapes (mark :: mark :: rest)).map Shorter.parts =
      some (text, behind) := by
  obtain ⟨_, hread⟩ := exists_of_map_parts h
  rw [readQuotation, if_pos (by simp)]
  simp only [hread]
  rfl

/-- The line feed behind the opening marks is not part of the string, and no other is taken for
it. -/
theorem skipFirstNewline_written
    (h : '\n' ∉ text → rest.head? ≠ some '\n' ∧ rest.head? ≠ some '\r') :
    (skipFirstNewline (firstNewline text ++ rest)).rest = rest := by
  rw [firstNewline]
  by_cases hfeed : '\n' ∈ text
  · rw [if_pos (List.contains_iff_mem.mpr hfeed)]
    rfl
  · rw [if_neg (fun hcontra => hfeed (List.contains_iff_mem.mp hcontra)), List.nil_append,
      skipFirstNewline, readNewline_eq_none (h hfeed).left (h hfeed).right]
    rfl

end

/-- The strings that a form can be written for.  The escaped forms are there for all of them. -/
def StringForm.CanHold : StringForm → Text → Prop
  | .basic, _ => True
  | .literal, text => ∀ c ∈ text, c ≠ '\'' ∧ isPlain c = true
  | .multilineBasic, _ => True
  | .multilineLiteral, text => (∀ c ∈ text, isControl c = false) ∧ hasTriple '\'' text = false

theorem canHold_choose (text : Text) : (StringForm.choose text).CanHold text := by
  have hcontrols : (!text.any isControl) = true → ∀ c ∈ text, isControl c = false := by
    intro hany c hc
    rw [Bool.not_eq_true', List.any_eq_false] at hany
    exact Bool.eq_false_iff.mpr (hany c hc)
  rw [StringForm.choose]
  split
  · trivial
  split
  · next hliteral =>
      simp only [Bool.and_eq_true] at hliteral
      rcases hliteral with ⟨⟨hany, hquote⟩, hfeed⟩
      intro c hc
      have hne : ∀ d, (!text.contains d) = true → c ≠ d := by
        rintro d hd rfl
        rw [Bool.not_eq_true', List.contains_iff_mem.mpr hc] at hd
        cases hd
      exact ⟨hne _ hquote, isPlain_of_not_isControl (hcontrols hany c hc) (hne _ hfeed)⟩
  split
  · trivial
  split
  · next hliteral =>
      simp only [Bool.and_eq_true, Bool.not_eq_true'] at hliteral
      exact ⟨hcontrols (by rw [hliteral.left]; rfl), hliteral.right⟩
  split
  · trivial
  · trivial

section

variable {text suffix : Text}

theorem exists_writeStringIn (form : StringForm) (text : Text) :
    ∃ mark rest, writeStringIn form text = mark :: rest ∧ (mark = '"' ∨ mark = '\'') := by
  cases form with
  | basic => exact ⟨_, _, rfl, Or.inl rfl⟩
  | literal => exact ⟨_, _, rfl, Or.inr rfl⟩
  | multilineBasic => exact ⟨_, _, rfl, Or.inl rfl⟩
  | multilineLiteral => exact ⟨_, _, rfl, Or.inr rfl⟩

theorem readString_quote {rest : Text}
    (h : (readQuotation '"' true rest).map Shorter.parts = some (text, suffix)) :
    (readString ('"' :: rest)).map Shorter.parts = some (text, suffix) := by
  obtain ⟨_, hread⟩ := exists_of_map_parts h
  rw [readString, hread]
  rfl

theorem readString_apostrophe {rest : Text}
    (h : (readQuotation '\'' false rest).map Shorter.parts = some (text, suffix)) :
    (readString ('\'' :: rest)).map Shorter.parts = some (text, suffix) := by
  obtain ⟨_, hread⟩ := exists_of_map_parts h
  rw [readString, hread]
  rfl

theorem head_flatMap_escapeInLine (text : Text) :
    (text.flatMap escapeInLine).head? ≠ some '"' := by
  cases text with
  | nil => exact nofun
  | cons c text =>
      rw [List.flatMap_cons]
      rcases escapeInLine_cases c with ⟨hplain, hquote, _⟩ | ⟨escape, hescape, _⟩
      · rw [hplain]
        exact ne_of_head_eq rfl hquote
      · rw [hescape]
        exact ne_of_head_eq rfl (by decide)

/-- No escaped string without line feeds begins with a line end. -/
theorem head_escapeInLines (hfeed : '\n' ∉ text) (count : Nat) (rest : Text) :
    (escapeInLines count text ++ '"' :: rest).head? ≠ some '\n' ∧
      (escapeInLines count text ++ '"' :: rest).head? ≠ some '\r' := by
  have hquote : ∀ more : Text, ('"' :: more).head? ≠ some '\n' ∧
      ('"' :: more).head? ≠ some '\r' :=
    fun more => ⟨ne_of_head_eq rfl (by decide), ne_of_head_eq rfl (by decide)⟩
  have hbackslash : ∀ more : Text, ('\\' :: more).head? ≠ some '\n' ∧
      ('\\' :: more).head? ≠ some '\r' :=
    fun more => ⟨ne_of_head_eq rfl (by decide), ne_of_head_eq rfl (by decide)⟩
  cases text with
  | nil => exact hquote rest
  | cons c text =>
      have hc : c ≠ '\n' := fun heq => hfeed (heq ▸ List.mem_cons_self)
      rw [escapeInLines, if_neg hc]
      split
      · split
        · exact hquote _
        · exact hbackslash _
      · rcases escape_cases hc with ⟨hplain, _, hchar⟩ | ⟨escape, hescape, _⟩
        · rw [hplain]
          exact ⟨ne_of_head_eq rfl hc, ne_of_head_eq rfl (ne_return_of_isPlain hchar)⟩
        · rw [hescape]
          exact hbackslash _

theorem head_literal (hfeed : '\n' ∉ text) (hcontrols : ∀ c ∈ text, isControl c = false)
    (rest : Text) : (text ++ '\'' :: rest).head? ≠ some '\n' ∧
      (text ++ '\'' :: rest).head? ≠ some '\r' := by
  cases text with
  | nil => exact ⟨ne_of_head_eq rfl (by decide), ne_of_head_eq rfl (by decide)⟩
  | cons c text =>
      have hc : c ≠ '\n' := fun heq => hfeed (heq ▸ List.mem_cons_self)
      have hplain := isPlain_of_not_isControl (hcontrols c List.mem_cons_self) hc
      exact ⟨ne_of_head_eq rfl hc, ne_of_head_eq rfl (ne_return_of_isPlain hplain)⟩

/-- Whatever form a string is written in that can hold it, it is read back. -/
theorem readString_writeStringIn {form : StringForm} (h : form.CanHold text)
    (hquote : suffix.head? ≠ some '"') (hapostrophe : suffix.head? ≠ some '\'') :
    (readString (writeStringIn form text ++ suffix)).map Shorter.parts = some (text, suffix) := by
  cases form with
  | basic =>
      have hread := readLine_basic text suffix
      rw [← readQuotation_of_line (head_flatMap_escapeInLine text) hquote] at hread
      rw [writeStringIn, List.cons_append, List.append_assoc]
      exact readString_quote hread
  | literal =>
      have hhead : text.head? ≠ some '\'' :=
        fun hcontra => (h '\'' (List.mem_of_head? hcontra)).left rfl
      have hread := readLine_literal h suffix
      rw [← readQuotation_of_line hhead hapostrophe] at hread
      rw [writeStringIn, List.cons_append, List.append_assoc]
      exact readString_apostrophe hread
  | multilineBasic =>
      have hread := readLines_basic hquote text (Nat.zero_le 2)
      have hopening := skipFirstNewline_written fun hfeed : '\n' ∉ text =>
        head_escapeInLines hfeed 0 ('"' :: '"' :: suffix)
      have hwritten : writeStringIn .multilineBasic text ++ suffix = '"' :: '"' :: '"' ::
          (firstNewline text ++ (escapeInLines 0 text ++ ('"' :: '"' :: '"' :: suffix))) := by
        simp [writeStringIn]
      rw [List.replicate_zero, List.nil_append, ← hopening] at hread
      rw [hwritten]
      exact readString_quote (readQuotation_of_lines hread)
  | multilineLiteral =>
      rcases h with ⟨hcontrols, htriple⟩
      have hread := readLines_literal hapostrophe (Nat.zero_le 2) htriple hcontrols
      have hopening := skipFirstNewline_written fun hfeed : '\n' ∉ text =>
        head_literal hfeed hcontrols ('\'' :: '\'' :: suffix)
      have hwritten : writeStringIn .multilineLiteral text ++ suffix = '\'' :: '\'' :: '\'' ::
          (firstNewline text ++ (text ++ ('\'' :: '\'' :: '\'' :: suffix))) := by
        simp [writeStringIn]
      rw [List.replicate_zero, List.nil_append, ← hopening] at hread
      rw [hwritten]
      exact readString_apostrophe (readQuotation_of_lines hread)

theorem readString_written (hquote : suffix.head? ≠ some '"')
    (hapostrophe : suffix.head? ≠ some '\'') (text : Text) :
    (readString (writeString text ++ suffix)).map Shorter.parts = some (text, suffix) :=
  readString_writeStringIn (canHold_choose text) hquote hapostrophe

end

end Toml
end PaperFilter
