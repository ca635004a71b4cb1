import PaperFilter.Proofs.Front
import PaperFilter.Query.Lexeme

/-!
# The spelling of lexemes

A text spells a sequence of lexemes if it is made of their spellings, in order and each at its
position, with blanks anywhere between them, and no word is followed by a character that words are
made of.  Scanning finds exactly the lexemes that a text spells.
-/

namespace PaperFilter

/-!
## Characters
-/

theorem toNat_bounds_of_isAlphanum {c : Char} (h : c.isAlphanum = true) :
    48 ≤ c.toNat ∧ c.toNat ≤ 122 := by
  change ((decide (c.val ≥ 65 ∧ c.val ≤ 90) || (decide (c.val ≥ 97) && decide (c.val ≤ 122))) ||
    (decide (c.val ≥ 48) && decide (c.val ≤ 57))) = true at h
  simp only [Bool.or_eq_true, Bool.and_eq_true, decide_eq_true_eq, ge_iff_le,
    UInt32.le_iff_toNat_le] at h
  change ((65 ≤ c.toNat ∧ c.toNat ≤ 90) ∨ (97 ≤ c.toNat ∧ c.toNat ≤ 122)) ∨
    (48 ≤ c.toNat ∧ c.toNat ≤ 57) at h
  omega

theorem isBlank_eq_false_of_isAlphanum {c : Char} (h : c.isAlphanum = true) :
    Unicode.isBlank c = false := by
  rcases toNat_bounds_of_isAlphanum h with ⟨hlow, hhigh⟩
  simp [Unicode.isBlank, Unicode.blankRanges, Unicode.Ranges.contains]
  omega

theorem isBlank_eq_false_of_isQueryChar {c : Char} (h : isQueryChar c = true) :
    Unicode.isBlank c = false := by
  simp only [isQueryChar, Bool.or_eq_true, decide_eq_true_eq, Bool.and_eq_true,
    Bool.not_eq_true'] at h
  rcases h with (halphanum | rfl) | ⟨hblank, _⟩
  · exact isBlank_eq_false_of_isAlphanum halphanum
  · rfl
  · exact hblank

theorem isQueryChar_eq_false_of_isBlank {c : Char} (h : Unicode.isBlank c = true) :
    isQueryChar c = false := by
  apply Bool.eq_false_iff.mpr
  intro hquery
  rw [isBlank_eq_false_of_isQueryChar hquery] at h
  cases h

/-- A run of characters of words. -/
def IsWord (text : Text) : Prop :=
  text ≠ [] ∧ ∀ c ∈ text, isQueryChar c = true

/-- No word goes on into the text. -/
def EndsWord (text : Text) : Prop :=
  ∀ c, text.head? = some c → isQueryChar c = false

theorem EndsWord.append {text behind : Text} (htext : EndsWord text) (hbehind : EndsWord behind) :
    EndsWord (text ++ behind) := by
  cases text with
  | nil => exact hbehind
  | cons c rest => exact htext

theorem EndsWord.of_append {text : Text} {c : Char} {behind : Text}
    (h : EndsWord (text ++ c :: behind)) : EndsWord text := by
  cases text with
  | nil =>
      intro d hd
      cases hd
  | cons d rest => exact h

theorem endsWord_cons {c : Char} (h : isQueryChar c = false) (text : Text) :
    EndsWord (c :: text) := by
  intro d hd
  injection hd with hd
  rw [← hd]
  exact h

theorem endsWord_dropWhile (text : Text) : EndsWord (text.dropWhile isQueryChar) := by
  intro c hc
  have h := List.head?_dropWhile_not isQueryChar text
  rw [hc] at h
  exact h

theorem isWord_cons_takeWhile {c : Char} (hc : isQueryChar c = true) (rest : Text) :
    IsWord (c :: rest.takeWhile isQueryChar) := by
  refine ⟨List.cons_ne_nil _ _, ?_⟩
  intro d hd
  rcases List.mem_cons.mp hd with rfl | hmem
  · exact hc
  · exact List.all_eq_true.mp List.all_takeWhile d hmem

theorem isWord_keyword (keyword : Keyword) : IsWord keyword.text := by
  constructor
  · cases keyword <;> exact List.cons_ne_nil _ _
  · have hall : keyword.text.all isQueryChar = true := by
      cases keyword <;> rfl
    exact List.all_eq_true.mp hall

theorem ofWord_keyword (keyword : Keyword) : Symbol.ofWord keyword.text = .operator keyword := by
  cases keyword <;> rfl

theorem cons_takeWhile_append_dropWhile (c : Char) (rest : Text) :
    (c :: rest.takeWhile isQueryChar) ++ rest.dropWhile isQueryChar = c :: rest := by
  rw [List.cons_append, List.takeWhile_append_dropWhile]

namespace Lexeme

/-!
## Phrases
-/

/-- The text between two quotation marks spells the words. -/
inductive SpellsPhrase : Text → List Text → Prop where
  | nil : SpellsPhrase [] []
  | blank {c : Char} {text : Text} {words : List Text} :
      Unicode.isBlank c = true → SpellsPhrase text words → SpellsPhrase (c :: text) words
  | word {word text : Text} {words : List Text} :
      IsWord word → EndsWord text → SpellsPhrase text words →
        SpellsPhrase (word ++ text) (word :: words)

/-!
## Lexemes
-/

/-- The text, which stands at a position, spells the lexemes. -/
inductive Spells : Nat → Text → List Lexeme → Prop where
  | nil (position : Nat) : Spells position [] []
  | blank {position : Nat} {c : Char} {text : Text} {lexemes : List Lexeme} :
      Unicode.isBlank c = true → Spells (position + 1) text lexemes →
        Spells position (c :: text) lexemes
  | opening {position : Nat} {text : Text} {lexemes : List Lexeme} :
      Spells (position + 1) text lexemes →
        Spells position ('(' :: text) (⟨.opening, position⟩ :: lexemes)
  | closing {position : Nat} {text : Text} {lexemes : List Lexeme} :
      Spells (position + 1) text lexemes →
        Spells position (')' :: text) (⟨.closing, position⟩ :: lexemes)
  | phrase {position : Nat} {body text : Text} {words : List Text} {lexemes : List Lexeme} :
      SpellsPhrase body words → words ≠ [] → Spells (position + body.length + 2) text lexemes →
        Spells position ('"' :: (body ++ '"' :: text)) (⟨.phrase words, position⟩ :: lexemes)
  | word {position : Nat} {word text : Text} {lexemes : List Lexeme} :
      IsWord word → EndsWord text → Spells (position + word.length) text lexemes →
        Spells position (word ++ text) (⟨Symbol.ofWord word, position⟩ :: lexemes)

/-!
## Scanning one part of a text
-/

theorem not_isBlank_of_isQueryChar {c : Char} (h : isQueryChar c = true) :
    ¬ Unicode.isBlank c = true := by
  rw [isBlank_eq_false_of_isQueryChar h]
  exact Bool.false_ne_true

theorem ne_of_isQueryChar {c d : Char} (hc : isQueryChar c = true) (hd : isQueryChar d = false) :
    c ≠ d := by
  rintro rfl
  rw [hc] at hd
  cases hd

theorem scanPhrase_quote (start position : Nat) (text : Text) :
    scanPhrase start position ('"' :: text) = .ok (.head ([], position + 1)) := by
  rw [scanPhrase, if_pos rfl]

theorem scanPhrase_blank {c : Char} (hblank : Unicode.isBlank c = true) (start position : Nat)
    (text : Text) :
    (scanPhrase start position (c :: text)).map Shorter.parts =
      (scanPhrase start (position + 1) text).map Shorter.parts := by
  have hquote : c ≠ '"' := by
    rintro rfl
    cases hblank
  rw [scanPhrase, if_neg hquote, if_pos hblank]
  cases scanPhrase start (position + 1) text <;> rfl

theorem scanPhrase_word {word text : Text} (hword : IsWord word) (htext : EndsWord text)
    (start position : Nat) :
    (scanPhrase start position (word ++ text)).map Shorter.parts =
      ((scanPhrase start (position + word.length) text).map Shorter.parts).map fun found =>
        ((word :: found.1.1, found.1.2), found.2) := by
  rcases hword with ⟨hne, hchars⟩
  cases word with
  | nil => exact absurd rfl hne
  | cons c letters =>
      have hc := hchars c List.mem_cons_self
      have hletters := readWhile_append
        (fun d hd => hchars d (List.mem_cons_of_mem c hd)) htext
      rw [List.cons_append, scanPhrase, if_neg (ne_of_isQueryChar hc rfl),
        if_neg (not_isBlank_of_isQueryChar hc), if_pos hc, hletters]
      dsimp only
      cases scanPhrase start (position + (c :: letters).length) text <;> rfl

theorem scanFrom_blank {c : Char} (hblank : Unicode.isBlank c = true) (position : Nat)
    (text : Text) : scanFrom position (c :: text) = scanFrom (position + 1) text := by
  rw [scanFrom, if_pos hblank]

theorem scanFrom_opening (position : Nat) (text : Text) :
    scanFrom position ('(' :: text) =
      (scanFrom (position + 1) text).map fun lexemes => ⟨.opening, position⟩ :: lexemes := by
  rw [scanFrom, if_neg (by decide), if_pos rfl]
  cases scanFrom (position + 1) text <;> rfl

theorem scanFrom_closing (position : Nat) (text : Text) :
    scanFrom position (')' :: text) =
      (scanFrom (position + 1) text).map fun lexemes => ⟨.closing, position⟩ :: lexemes := by
  rw [scanFrom, if_neg (by decide), if_neg (by decide), if_pos rfl]
  cases scanFrom (position + 1) text <;> rfl

theorem scanFrom_quote (position : Nat) (text : Text) :
    scanFrom position ('"' :: text) =
      ((scanPhrase position (position + 1) text).map Shorter.parts).bind fun found =>
        if found.1.1.isEmpty then .error (.emptyGroup position)
        else (scanFrom found.1.2 found.2).map fun lexemes =>
          ⟨.phrase found.1.1, position⟩ :: lexemes := by
  rw [scanFrom, if_neg (by decide), if_neg (by decide), if_neg (by decide), if_pos rfl]
  cases scanPhrase position (position + 1) text with
  | error error => rfl
  | ok phrase =>
      simp only [Except.map, bind, Except.bind, Shorter.parts]
      split
      · rfl
      · cases scanFrom phrase.value.2 phrase.rest <;> rfl

theorem scanFrom_word {word text : Text} (hword : IsWord word) (htext : EndsWord text)
    (position : Nat) :
    scanFrom position (word ++ text) =
      (scanFrom (position + word.length) text).map fun lexemes =>
        ⟨Symbol.ofWord word, position⟩ :: lexemes := by
  rcases hword with ⟨hne, hchars⟩
  cases word with
  | nil => exact absurd rfl hne
  | cons c letters =>
      have hc := hchars c List.mem_cons_self
      have hletters := readWhile_append
        (fun d hd => hchars d (List.mem_cons_of_mem c hd)) htext
      rw [List.cons_append, scanFrom, if_neg (not_isBlank_of_isQueryChar hc),
        if_neg (ne_of_isQueryChar hc rfl), if_neg (ne_of_isQueryChar hc rfl),
        if_neg (ne_of_isQueryChar hc rfl), if_pos hc]
      simp only [hletters]
      cases scanFrom (position + (c :: letters).length) text <;> rfl

/-!
## Scanning finds what is spelled
-/

theorem scanPhrase_of_spellsPhrase {body : Text} {words : List Text}
    (h : SpellsPhrase body words) (start position : Nat) (behind : Text) :
    (scanPhrase start position (body ++ '"' :: behind)).map Shorter.parts =
      .ok ((words, position + body.length + 1), behind) := by
  induction h generalizing position with
  | nil =>
      rw [List.nil_append, scanPhrase_quote]
      rfl
  | @blank c text words hblank _ ih =>
      rw [List.cons_append, scanPhrase_blank hblank, ih, List.length_cons,
        Nat.add_right_comm position 1, ← Nat.add_assoc]
  | @word word text words hword htext _ ih =>
      rw [List.append_assoc, scanPhrase_word hword (htext.append (endsWord_cons rfl behind)), ih,
        List.length_append, ← Nat.add_assoc]
      rfl

theorem spellsPhrase_of_scanPhrase {start position finish : Nat} {text behind : Text}
    {words : List Text}
    (h : (scanPhrase start position text).map Shorter.parts = .ok ((words, finish), behind)) :
    ∃ body, text = body ++ '"' :: behind ∧ SpellsPhrase body words ∧
      finish = position + body.length + 1 := by
  induction position, text using scanPhrase.induct generalizing words with
  | case1 position =>
      rw [scanPhrase] at h
      cases h
  | case2 position rest =>
      rw [scanPhrase_quote] at h
      cases h
      exact ⟨[], rfl, .nil, rfl⟩
  | case3 position c rest _ hblank ih =>
      rw [scanPhrase_blank hblank] at h
      rcases ih h with ⟨body, rfl, hbody, rfl⟩
      exact ⟨c :: body, rfl, .blank hblank hbody, by rw [List.length_cons]; omega⟩
  | case4 =>
      rename_i position c rest _ _ hc letters word ih
      have hword := isWord_cons_takeWhile hc rest
      have htext := endsWord_dropWhile rest
      rw [← cons_takeWhile_append_dropWhile c rest, scanPhrase_word hword htext] at h
      rcases map_eq_ok h with ⟨⟨⟨others, finish⟩, behind⟩, hfound, heq⟩
      cases heq
      rcases ih hfound with ⟨body, hbody, hspells, hfinish⟩
      have hends : EndsWord body := by
        have hbehind : EndsWord (body ++ '"' :: behind) := hbody ▸ htext
        exact hbehind.of_append
      refine ⟨word ++ body, ?_, .word hword hends hspells, ?_⟩
      · rw [List.append_assoc, ← hbody]
        exact (cons_takeWhile_append_dropWhile c rest).symm
      · rw [hfinish, List.length_append, Nat.add_assoc position]
  | case5 position c rest hquote hblank hc =>
      rw [scanPhrase, if_neg hquote, if_neg hblank, if_neg hc] at h
      cases h

theorem scanFrom_of_spells {position : Nat} {text : Text} {lexemes : List Lexeme}
    (h : Spells position text lexemes) : scanFrom position text = .ok lexemes := by
  induction h with
  | nil position => rw [scanFrom]
  | blank hblank _ ih => rw [scanFrom_blank hblank, ih]
  | opening _ ih =>
      rw [scanFrom_opening, ih]
      rfl
  | closing _ ih =>
      rw [scanFrom_closing, ih]
      rfl
  | @phrase position body text words lexemes hbody hwords _ ih =>
      have hlength : position + 1 + body.length + 1 = position + body.length + 2 := by omega
      have hempty : ¬ words.isEmpty = true := by
        rw [List.isEmpty_iff]
        exact hwords
      rw [scanFrom_quote, scanPhrase_of_spellsPhrase hbody]
      simp only [Except.bind, if_neg hempty, hlength, ih]
      rfl
  | word hword htext _ ih =>
      rw [scanFrom_word hword htext, ih]
      rfl

theorem spells_of_scanFrom {position : Nat} {text : Text} {lexemes : List Lexeme}
    (h : scanFrom position text = .ok lexemes) : Spells position text lexemes := by
  induction position, text using scanFrom.induct generalizing lexemes with
  | case1 position =>
      rw [scanFrom] at h
      cases h
      exact .nil position
  | case2 position c rest hblank ih =>
      rw [scanFrom_blank hblank] at h
      exact .blank hblank (ih h)
  | case3 position rest _ ih =>
      rw [scanFrom_opening] at h
      rcases map_eq_ok h with ⟨others, hothers, rfl⟩
      exact .opening (ih hothers)
  | case4 position rest _ _ ih =>
      rw [scanFrom_closing] at h
      rcases map_eq_ok h with ⟨others, hothers, rfl⟩
      exact .closing (ih hothers)
  | case5 position rest _ _ _ ih =>
      rw [scanFrom_quote] at h
      cases hphrase : (scanPhrase position (position + 1) rest).map Shorter.parts with
      | error error =>
          rw [hphrase] at h
          cases h
      | ok found =>
          rcases map_eq_ok hphrase with ⟨phrase, _, hparts⟩
          rcases found with ⟨⟨words, finish⟩, behind⟩
          rcases spellsPhrase_of_scanPhrase hphrase with ⟨body, rfl, hbody, hfinish⟩
          have hbehind : phrase.rest = behind := congrArg Prod.snd hparts
          simp only [hphrase, Except.bind] at h
          split at h
          · cases h
          · next hempty =>
              rcases map_eq_ok h with ⟨others, hothers, rfl⟩
              have hrest : Spells finish behind others := by
                rw [← hbehind]
                apply ih phrase finish
                rw [hbehind]
                exact hothers
              rw [hfinish, Nat.add_right_comm position 1] at hrest
              rw [List.isEmpty_iff] at hempty
              exact .phrase hbody hempty hrest
  | case6 =>
      rename_i position c rest _ _ _ _ hc letters word ih
      have hword := isWord_cons_takeWhile hc rest
      have htext := endsWord_dropWhile rest
      rw [← cons_takeWhile_append_dropWhile c rest] at h ⊢
      rw [scanFrom_word hword htext] at h
      rcases map_eq_ok h with ⟨others, hothers, rfl⟩
      exact .word hword htext (ih hothers)
  | case7 position c rest hblank hopening hclosing hquote hc =>
      rw [scanFrom, if_neg hblank, if_neg hopening, if_neg hclosing, if_neg hquote,
        if_neg hc] at h
      cases h

/-!
## What scanning refuses
-/

/-- The errors of scanning; a character is unexpected only if no word is made of it. -/
def IsScanError : QueryError → Prop
  | .unexpectedCharacter ch _ => isQueryChar ch = false
  | .unterminatedQuote _ => True
  | .emptyGroup _ => True
  | _ => False

theorem isScanError_of_scanPhrase {start position : Nat} {text : Text} {error : QueryError}
    (h : (scanPhrase start position text).map Shorter.parts = .error error) :
    IsScanError error := by
  induction position, text using scanPhrase.induct with
  | case1 position =>
      rw [scanPhrase] at h
      cases h
      trivial
  | case2 position rest =>
      rw [scanPhrase_quote] at h
      cases h
  | case3 position c rest _ hblank ih =>
      rw [scanPhrase_blank hblank] at h
      exact ih h
  | case4 =>
      rename_i position c rest _ _ hc letters word ih
      rw [← cons_takeWhile_append_dropWhile c rest,
        scanPhrase_word (isWord_cons_takeWhile hc rest) (endsWord_dropWhile rest)] at h
      exact ih (map_eq_error h)
  | case5 position c rest hquote hblank hc =>
      rw [scanPhrase, if_neg hquote, if_neg hblank, if_neg hc] at h
      cases h
      exact Bool.eq_false_iff.mpr hc

theorem isScanError_of_scanFrom {position : Nat} {text : Text} {error : QueryError}
    (h : scanFrom position text = .error error) : IsScanError error := by
  induction position, text using scanFrom.induct with
  | case1 position =>
      rw [scanFrom] at h
      cases h
  | case2 position c rest hblank ih =>
      rw [scanFrom_blank hblank] at h
      exact ih h
  | case3 position rest _ ih =>
      rw [scanFrom_opening] at h
      exact ih (map_eq_error h)
  | case4 position rest _ _ ih =>
      rw [scanFrom_closing] at h
      exact ih (map_eq_error h)
  | case5 position rest _ _ _ ih =>
      rw [scanFrom_quote] at h
      cases hphrase : scanPhrase position (position + 1) rest with
      | error error' =>
          rw [hphrase] at h
          cases h
          exact isScanError_of_scanPhrase (congrArg (Except.map Shorter.parts) hphrase)
      | ok phrase =>
          rw [hphrase] at h
          simp only [Except.map, Except.bind] at h
          split at h
          · cases h
            trivial
          · exact ih phrase phrase.value.2 (map_eq_error h)
  | case6 =>
      rename_i position c rest _ _ _ _ hc letters word ih
      rw [← cons_takeWhile_append_dropWhile c rest,
        scanFrom_word (isWord_cons_takeWhile hc rest) (endsWord_dropWhile rest)] at h
      exact ih (map_eq_error h)
  | case7 position c rest hblank hopening hclosing hquote hc =>
      rw [scanFrom, if_neg hblank, if_neg hopening, if_neg hclosing, if_neg hquote,
        if_neg hc] at h
      cases h
      exact Bool.eq_false_iff.mpr hc

/-!
## Texts put together
-/

theorem Spells.append {position : Nat} {first second : Text} {lexemes others : List Lexeme}
    (hfirst : Spells position first lexemes) (hends : EndsWord second)
    (hsecond : Spells (position + first.length) second others) :
    Spells position (first ++ second) (lexemes ++ others) := by
  induction hfirst with
  | nil position => exact hsecond
  | @blank position c text lexemes hblank _ ih =>
      rw [List.length_cons, ← Nat.add_assoc, Nat.add_right_comm] at hsecond
      exact .blank hblank (ih hsecond)
  | @opening position text lexemes _ ih =>
      rw [List.length_cons, ← Nat.add_assoc, Nat.add_right_comm] at hsecond
      exact .opening (ih hsecond)
  | @closing position text lexemes _ ih =>
      rw [List.length_cons, ← Nat.add_assoc, Nat.add_right_comm] at hsecond
      exact .closing (ih hsecond)
  | @phrase position body text words lexemes hbody hwords _ ih =>
      have hlength : position + ('"' :: (body ++ '"' :: text)).length =
          position + body.length + 2 + text.length := by
        simp only [List.length_cons, List.length_append]
        omega
      rw [hlength] at hsecond
      rw [List.cons_append, List.append_assoc, List.cons_append]
      exact .phrase hbody hwords (ih hsecond)
  | @word position word text lexemes hword htext _ ih =>
      rw [List.length_append, ← Nat.add_assoc] at hsecond
      rw [List.append_assoc]
      exact .word hword (htext.append hends) (ih hsecond)

/-- Wherever a text stands, it spells the same symbols. -/
theorem Spells.move {position : Nat} {text : Text} {lexemes : List Lexeme}
    (h : Spells position text lexemes) (target : Nat) :
    ∃ moved, Spells target text moved ∧ moved.map symbol = lexemes.map symbol := by
  induction h generalizing target with
  | nil position => exact ⟨[], .nil target, rfl⟩
  | blank hblank _ ih =>
      rcases ih (target + 1) with ⟨moved, hmoved, hsymbols⟩
      exact ⟨moved, .blank hblank hmoved, hsymbols⟩
  | opening _ ih =>
      rcases ih (target + 1) with ⟨moved, hmoved, hsymbols⟩
      exact ⟨⟨.opening, target⟩ :: moved, .opening hmoved, congrArg (List.cons _) hsymbols⟩
  | closing _ ih =>
      rcases ih (target + 1) with ⟨moved, hmoved, hsymbols⟩
      exact ⟨⟨.closing, target⟩ :: moved, .closing hmoved, congrArg (List.cons _) hsymbols⟩
  | @phrase position body text words lexemes hbody hwords _ ih =>
      rcases ih (target + body.length + 2) with ⟨moved, hmoved, hsymbols⟩
      exact ⟨⟨.phrase words, target⟩ :: moved, .phrase hbody hwords hmoved,
        congrArg (List.cons _) hsymbols⟩
  | @word position word text lexemes hword htext _ ih =>
      rcases ih (target + word.length) with ⟨moved, hmoved, hsymbols⟩
      exact ⟨⟨Symbol.ofWord word, target⟩ :: moved, .word hword htext hmoved,
        congrArg (List.cons _) hsymbols⟩

/-- The text spells the symbols, wherever it stands. -/
def SpellsSymbols (text : Text) (symbols : List Symbol) : Prop :=
  ∀ position, ∃ lexemes, Spells position text lexemes ∧ lexemes.map symbol = symbols

theorem SpellsSymbols.append {first second : Text} {symbols others : List Symbol}
    (hfirst : SpellsSymbols first symbols) (hsecond : SpellsSymbols second others)
    (hends : EndsWord second) : SpellsSymbols (first ++ second) (symbols ++ others) := by
  intro position
  rcases hfirst position with ⟨lexemes, hlexemes, rfl⟩
  rcases hsecond (position + first.length) with ⟨lexemes', hlexemes', rfl⟩
  exact ⟨lexemes ++ lexemes', hlexemes.append hends hlexemes', List.map_append⟩

theorem spellsSymbols_nil : SpellsSymbols [] [] :=
  fun position => ⟨[], .nil position, rfl⟩

section

variable {text : Text} {symbols : List Symbol} (h : SpellsSymbols text symbols)
include h

theorem SpellsSymbols.blank {c : Char} (hblank : Unicode.isBlank c = true) :
    SpellsSymbols (c :: text) symbols := by
  intro position
  rcases h (position + 1) with ⟨lexemes, hlexemes, hsymbols⟩
  exact ⟨lexemes, .blank hblank hlexemes, hsymbols⟩

theorem SpellsSymbols.opening : SpellsSymbols ('(' :: text) (.opening :: symbols) := by
  intro position
  rcases h (position + 1) with ⟨lexemes, hlexemes, rfl⟩
  exact ⟨⟨.opening, position⟩ :: lexemes, .opening hlexemes, rfl⟩

theorem SpellsSymbols.closing : SpellsSymbols (')' :: text) (.closing :: symbols) := by
  intro position
  rcases h (position + 1) with ⟨lexemes, hlexemes, rfl⟩
  exact ⟨⟨.closing, position⟩ :: lexemes, .closing hlexemes, rfl⟩

theorem SpellsSymbols.phrase {body : Text} {words : List Text} (hbody : SpellsPhrase body words)
    (hwords : words ≠ []) :
    SpellsSymbols ('"' :: (body ++ '"' :: text)) (.phrase words :: symbols) := by
  intro position
  rcases h (position + body.length + 2) with ⟨lexemes, hlexemes, rfl⟩
  exact ⟨⟨.phrase words, position⟩ :: lexemes, .phrase hbody hwords hlexemes, rfl⟩

theorem SpellsSymbols.word {word : Text} (hword : IsWord word) (hends : EndsWord text) :
    SpellsSymbols (word ++ text) (Symbol.ofWord word :: symbols) := by
  intro position
  rcases h (position + word.length) with ⟨lexemes, hlexemes, rfl⟩
  exact ⟨⟨Symbol.ofWord word, position⟩ :: lexemes, .word hword hends hlexemes, rfl⟩

theorem SpellsSymbols.keyword (keyword : Keyword) :
    SpellsSymbols (keyword.text ++ ' ' :: text) (.operator keyword :: symbols) := by
  have hword := (h.blank (c := ' ') rfl).word (isWord_keyword keyword) (endsWord_cons rfl text)
  rwa [ofWord_keyword] at hword

end

theorem spellsSymbols_of_scan {query : Text} {lexemes : List Lexeme}
    (h : scan query = .ok lexemes) : SpellsSymbols query (lexemes.map symbol) :=
  fun position => (spells_of_scanFrom h).move position

theorem SpellsSymbols.exists_scan {query : Text} {symbols : List Symbol}
    (h : SpellsSymbols query symbols) :
    ∃ lexemes, scan query = .ok lexemes ∧ lexemes.map symbol = symbols := by
  rcases h 0 with ⟨lexemes, hspells, hsymbols⟩
  exact ⟨lexemes, scanFrom_of_spells hspells, hsymbols⟩

/-!
## Positions
-/

theorem Spells.position_le {position : Nat} {text : Text} {lexemes : List Lexeme}
    (h : Spells position text lexemes) : ∀ lexeme ∈ lexemes, position ≤ lexeme.position := by
  induction h with
  | nil position => exact List.forall_mem_nil _
  | blank _ _ ih => exact fun lexeme hmem => Nat.le_of_succ_le (ih lexeme hmem)
  | opening _ ih =>
      exact List.forall_mem_cons.mpr
        ⟨Nat.le_refl _, fun lexeme hmem => Nat.le_of_succ_le (ih lexeme hmem)⟩
  | closing _ ih =>
      exact List.forall_mem_cons.mpr
        ⟨Nat.le_refl _, fun lexeme hmem => Nat.le_of_succ_le (ih lexeme hmem)⟩
  | phrase _ _ _ ih =>
      refine List.forall_mem_cons.mpr ⟨Nat.le_refl _, fun lexeme hmem => ?_⟩
      exact Nat.le_trans (Nat.le_add_right_of_le (Nat.le_add_right _ _)) (ih lexeme hmem)
  | word _ _ _ ih =>
      refine List.forall_mem_cons.mpr ⟨Nat.le_refl _, fun lexeme hmem => ?_⟩
      exact Nat.le_trans (Nat.le_add_right _ _) (ih lexeme hmem)

/-- Every lexeme stands behind those in front of it. -/
theorem Spells.pairwise_position {position : Nat} {text : Text} {lexemes : List Lexeme}
    (h : Spells position text lexemes) :
    lexemes.Pairwise fun lexeme other => lexeme.position < other.position := by
  induction h with
  | nil position => exact .nil
  | blank _ _ ih => exact ih
  | opening hrest ih => exact .cons (fun lexeme hmem => hrest.position_le lexeme hmem) ih
  | closing hrest ih => exact .cons (fun lexeme hmem => hrest.position_le lexeme hmem) ih
  | phrase _ _ hrest ih =>
      refine .cons (fun lexeme hmem => ?_) ih
      refine Nat.lt_of_lt_of_le ?_ (hrest.position_le lexeme hmem)
      exact Nat.lt_succ_of_le (Nat.le_succ_of_le (Nat.le_add_right _ _))
  | word hword _ hrest ih =>
      refine .cons (fun lexeme hmem => ?_) ih
      have hpos := List.length_pos_iff.mpr hword.left
      exact Nat.lt_of_lt_of_le (Nat.lt_add_of_pos_right hpos) (hrest.position_le lexeme hmem)

theorem nodup_position_of_scan {query : Text} {lexemes : List Lexeme}
    (h : scan query = .ok lexemes) : (lexemes.map position).Nodup := by
  refine List.pairwise_map.mpr ((spells_of_scanFrom h).pairwise_position.imp ?_)
  exact fun hlt => Nat.ne_of_lt hlt

end Lexeme
end PaperFilter
