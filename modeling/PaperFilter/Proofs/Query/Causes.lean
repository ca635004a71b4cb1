import Mathlib
import PaperFilter.Proofs.Query.Layout

/-!
# What an error of a query points at

The position of an error is found in three ways: scanning stops at a character or at the mark that
opens a phrase, the walk over the lexemes blames the lexeme that it stands at, and at its end it
blames an opening parenthesis that it met before.  Each lexeme stands in the query where its
spelling begins, so that in each of the three the query has, at the position, what the error says.
-/

namespace PaperFilter

open Unicode

namespace Lexeme

/-!
## Where scanning stops
-/

/-- The text, which stands at a position, is refused for its first character or for the phrase that
it begins with. -/
inductive Stops (position : Nat) : Text → QueryError → Prop where
  | character {c : Char} {rest : Text} :
      isBlank c = false → isQueryChar c = false → c ≠ '(' → c ≠ ')' → c ≠ '"' →
        Stops position (c :: rest) (.unexpectedCharacter c position)
  | inPhrase {body : Text} {c : Char} {rest : Text} :
      '"' ∉ body → isBlank c = false → isQueryChar c = false → c ≠ '"' →
        Stops position ('"' :: (body ++ c :: rest))
          (.unexpectedCharacter c (position + 1 + body.length))
  | unterminated {body : Text} :
      '"' ∉ body → Stops position ('"' :: body) (.unterminatedQuote position)
  | emptyPhrase {blanks rest : Text} :
      AreBlanks blanks → Stops position ('"' :: (blanks ++ '"' :: rest)) (.emptyGroup position)

/-- Behind a part of the text that leaves no phrase open, the rest of it is refused. -/
def StopsBehind (position : Nat) (text : Text) (error : QueryError) : Prop :=
  ∃ front rest, text = front ++ rest ∧ Even (front.count '"') ∧
    Stops (position + front.length) rest error

section

variable {position : Nat} {text : Text} {error : QueryError}

theorem Stops.behind (h : Stops position text error) : StopsBehind position text error :=
  ⟨[], text, rfl, by simp, h⟩

theorem StopsBehind.append {part : Text} (hpart : Even (part.count '"'))
    (h : StopsBehind (position + part.length) text error) :
    StopsBehind position (part ++ text) error := by
  rcases h with ⟨front, rest, rfl, hfront, hstops⟩
  refine ⟨part ++ front, rest, (List.append_assoc part front rest).symm, ?_, ?_⟩
  · rw [List.count_append]
    exact hpart.add hfront
  · rwa [List.length_append, ← Nat.add_assoc]

/-- A part without quotation marks. -/
theorem StopsBehind.append_of_notMem {part : Text} (hpart : '"' ∉ part)
    (h : StopsBehind (position + part.length) text error) :
    StopsBehind position (part ++ text) error := by
  apply h.append
  rw [List.count_eq_zero.mpr hpart]
  exact Even.zero

end

theorem quote_notMem_of_isWord {word : Text} (h : IsWord word) : '"' ∉ word := by
  intro hmem
  have hquery := h.right '"' hmem
  cases hquery

theorem quote_notMem_of_areBlanks {blanks : Text} (h : AreBlanks blanks) : '"' ∉ blanks := by
  intro hmem
  have hblank := h '"' hmem
  cases hblank

theorem SpellsPhrase.quote_notMem {body : Text} {words : List Text} (h : SpellsPhrase body words) :
    '"' ∉ body := by
  induction h with
  | nil => exact List.not_mem_nil
  | @blank c text words hblank _ ih =>
      have hc : '"' ∉ [c] := quote_notMem_of_areBlanks (List.forall_mem_singleton.mpr hblank)
      rw [List.mem_singleton] at hc
      exact List.not_mem_cons_of_ne_of_not_mem hc ih
  | word hword _ _ ih => exact List.not_mem_append (quote_notMem_of_isWord hword) ih

/-- A phrase is refused for not ending, or for a character that is neither a blank nor of words. -/
theorem scanPhrase_eq_error {start position : Nat} {text : Text} {error : QueryError}
    (h : (scanPhrase start position text).map Shorter.parts = .error error) :
    ('"' ∉ text ∧ error = .unterminatedQuote start) ∨
      ∃ body c rest, text = body ++ c :: rest ∧ '"' ∉ body ∧ isBlank c = false ∧
        isQueryChar c = false ∧ c ≠ '"' ∧
        error = .unexpectedCharacter c (position + body.length) := by
  induction position, text using scanPhrase.induct with
  | case1 position =>
      rw [scanPhrase] at h
      cases h
      exact Or.inl ⟨List.not_mem_nil, rfl⟩
  | case2 position rest =>
      rw [scanPhrase_quote] at h
      cases h
  | case3 position c rest hquote hblank ih =>
      rw [scanPhrase_blank hblank] at h
      rcases ih h with ⟨hmem, rfl⟩ | ⟨body, d, behind, rfl, hbody, hd⟩
      · exact Or.inl ⟨List.not_mem_cons_of_ne_of_not_mem (Ne.symm hquote) hmem, rfl⟩
      · refine Or.inr ⟨c :: body, d, behind, rfl,
          List.not_mem_cons_of_ne_of_not_mem (Ne.symm hquote) hbody, ?_⟩
        rwa [List.length_cons, Nat.add_comm body.length, ← Nat.add_assoc]
  | case4 =>
      rename_i position c rest _ _ hc letters word ih
      have hword := isWord_cons_takeWhile hc rest
      rw [← cons_takeWhile_append_dropWhile c rest] at h ⊢
      rw [scanPhrase_word hword (endsWord_dropWhile rest)] at h
      have hquote := quote_notMem_of_isWord hword
      rcases ih (map_eq_error h) with ⟨hmem, rfl⟩ | ⟨body, d, behind, hrest, hbody, hd⟩
      · exact Or.inl ⟨List.not_mem_append hquote hmem, rfl⟩
      · refine Or.inr ⟨word ++ body, d, behind, ?_, List.not_mem_append hquote hbody, ?_⟩
        · rw [List.append_assoc, ← hrest]
          rfl
        · rwa [List.length_append, ← Nat.add_assoc]
  | case5 position c rest hquote hblank hc =>
      rw [scanPhrase, if_neg hquote, if_neg hblank, if_neg hc] at h
      cases h
      exact Or.inr ⟨[], c, rest, rfl, List.not_mem_nil, Bool.eq_false_iff.mpr hblank,
        Bool.eq_false_iff.mpr hc, hquote, rfl⟩

theorem stopsBehind_of_scanFrom {position : Nat} {text : Text} {error : QueryError}
    (h : scanFrom position text = .error error) : StopsBehind position text error := by
  induction position, text using scanFrom.induct with
  | case1 position =>
      rw [scanFrom] at h
      cases h
  | case2 position c rest hblank ih =>
      rw [scanFrom_blank hblank] at h
      have hc : '"' ∉ [c] := quote_notMem_of_areBlanks (List.forall_mem_singleton.mpr hblank)
      exact (ih h).append_of_notMem hc
  | case3 position rest _ ih =>
      rw [scanFrom_opening] at h
      exact (ih (map_eq_error h)).append_of_notMem (show '"' ∉ ['('] by decide)
  | case4 position rest _ _ ih =>
      rw [scanFrom_closing] at h
      exact (ih (map_eq_error h)).append_of_notMem (show '"' ∉ [')'] by decide)
  | case5 position rest _ _ _ ih =>
      rw [scanFrom_quote] at h
      cases hphrase : (scanPhrase position (position + 1) rest).map Shorter.parts with
      | error error' =>
          rw [hphrase] at h
          cases h
          rcases scanPhrase_eq_error hphrase with
            ⟨hmem, rfl⟩ | ⟨body, c, behind, rfl, hbody, hblank, hc, hquote, rfl⟩
          · exact (Stops.unterminated hmem).behind
          · exact (Stops.inPhrase hbody hblank hc hquote).behind
      | ok found =>
          rcases map_eq_ok hphrase with ⟨phrase, _, hparts⟩
          rcases found with ⟨⟨words, finish⟩, behind⟩
          rcases spellsPhrase_of_scanPhrase hphrase with ⟨body, rfl, hbody, hfinish⟩
          have hbehind : phrase.rest = behind := congrArg Prod.snd hparts
          simp only [hphrase, Except.bind] at h
          split at h
          · next hempty =>
              cases h
              rw [List.isEmpty_iff.mp hempty] at hbody
              exact (Stops.emptyPhrase (areBlanks_of_spellsPhrase hbody)).behind
          · have hrest : StopsBehind finish behind error := by
              rw [← hbehind]
              apply ih phrase finish
              rw [hbehind]
              exact map_eq_error h
            have hcount : ('"' :: (body ++ ['"'])).count '"' = 2 := by
              rw [List.count_cons_self, List.count_append,
                List.count_eq_zero.mpr hbody.quote_notMem]
              rfl
            have hpart : finish = position + ('"' :: (body ++ ['"'])).length := by
              rw [hfinish, length_quoted]
              omega
            rw [hpart] at hrest
            have hstops := hrest.append (hcount ▸ (⟨1, rfl⟩ : Even 2))
            rwa [List.cons_append, List.append_assoc, List.singleton_append] at hstops
  | case6 =>
      rename_i position c rest _ _ _ _ hc letters word ih
      have hword := isWord_cons_takeWhile hc rest
      rw [← cons_takeWhile_append_dropWhile c rest] at h ⊢
      rw [scanFrom_word hword (endsWord_dropWhile rest)] at h
      exact (ih (map_eq_error h)).append_of_notMem (quote_notMem_of_isWord hword)
  | case7 position c rest hblank hopening hclosing hquote hc =>
      rw [scanFrom, if_neg hblank, if_neg hopening, if_neg hclosing, if_neg hquote,
        if_neg hc] at h
      cases h
      exact (Stops.character (Bool.eq_false_iff.mpr hblank) (Bool.eq_false_iff.mpr hc) hopening
        hclosing hquote).behind

end Lexeme

/-!
## What stands at a position
-/

/-- The word stands at the position, and no character of words stands next to it. -/
def HasWordAt (query : Text) (position : Nat) (word : Text) : Prop :=
  ∃ before behind, query = before ++ (word ++ behind) ∧ before.length = position ∧
    IsWord word ∧ (∀ c, before.getLast? = some c → isQueryChar c = false) ∧ EndsWord behind

/-- The keyword stands at the position as a whole word, in any ASCII letter case. -/
def HasKeywordAt (query : Text) (position : Nat) (keyword : Keyword) : Prop :=
  ∃ word, word.map Char.toLower = keyword.text ∧ HasWordAt query position word

/-- The first character behind the position that is no blank. -/
def nextBehind (query : Text) (position : Nat) : Option Char :=
  ((query.drop (position + 1)).dropWhile isBlank).head?

/--
What the error says is what the query has, and where the error has a position, it has it there.  A
parenthesis is unexpected only behind an odd number of quotation marks.
-/
def QueryError.PointsInto (query : Text) : QueryError → Prop
  | .empty => AreBlanks query
  | .unexpectedCharacter ch position =>
      query[position]? = some ch ∧ isBlank ch = false ∧ isQueryChar ch = false ∧ ch ≠ '"' ∧
        (Even ((query.take position).count '"') → ch ≠ '(' ∧ ch ≠ ')')
  | .unterminatedQuote position =>
      query[position]? = some '"' ∧ '"' ∉ query.drop (position + 1)
  | .emptyGroup position =>
      (query[position]? = some '(' ∧ nextBehind query position = some ')') ∨
        (query[position]? = some '"' ∧ nextBehind query position = some '"')
  | .unbalancedParens position => query[position]? = some '(' ∨ query[position]? = some ')'
  | .missingOperand keyword position => HasKeywordAt query position keyword
  | .tooDeep _ position => query[position]? = some '(' ∨ HasKeywordAt query position .not
  | .unexpectedToken _ _ => False
  | .invalidWildcard word _ => ∃ position, HasWordAt query position word

section

variable {query : Text} {position : Nat}

theorem getElem?_length_append (before : Text) (c : Char) (behind : Text) :
    (before ++ c :: behind)[before.length]? = some c := by
  rw [List.getElem?_append_right (Nat.le_refl _), Nat.sub_self, List.getElem?_cons_zero]

theorem drop_length_append (before : Text) (c : Char) (behind : Text) :
    (before ++ c :: behind).drop (before.length + 1) = behind := by
  rw [List.drop_length_add_append]
  rfl

theorem nextBehind_append {blanks : Text} (hblanks : AreBlanks blanks) {c : Char}
    (hc : isBlank c = false) (before : Text) (mark : Char) (behind : Text) :
    nextBehind (before ++ mark :: (blanks ++ c :: behind)) before.length = some c := by
  rw [nextBehind, drop_length_append, List.dropWhile_append_of_pos hblanks,
    List.dropWhile_cons_of_neg (by rw [hc]; decide)]
  rfl

theorem lt_length_of_getElem? {c : Char} (h : query[position]? = some c) :
    position < query.length :=
  (List.getElem?_eq_some_iff.mp h).1

theorem HasWordAt.lt_length {word : Text} (h : HasWordAt query position word) :
    position < query.length := by
  rcases h with ⟨before, behind, rfl, rfl, ⟨hne, _⟩, _, _⟩
  have hword := List.length_pos_iff.mpr hne
  rw [List.length_append, List.length_append]
  omega

end

namespace QueryError

/-- The position is that of a character of the query. -/
theorem PointsInto.lt_length {query : Text} {error : QueryError} (h : error.PointsInto query)
    {position : Nat} (hposition : error.position? = some position) : position < query.length := by
  cases error with
  | empty => cases hposition
  | unexpectedCharacter ch position =>
      cases hposition
      exact lt_length_of_getElem? h.left
  | unterminatedQuote position =>
      cases hposition
      exact lt_length_of_getElem? h.left
  | emptyGroup position =>
      cases hposition
      rcases h with hgroup | hphrase
      · exact lt_length_of_getElem? hgroup.left
      · exact lt_length_of_getElem? hphrase.left
  | unbalancedParens position =>
      cases hposition
      rcases h with hopening | hclosing
      · exact lt_length_of_getElem? hopening
      · exact lt_length_of_getElem? hclosing
  | missingOperand keyword position =>
      cases hposition
      rcases h with ⟨word, _, hword⟩
      exact hword.lt_length
  | tooDeep limit position =>
      cases hposition
      rcases h with hopening | ⟨word, _, hword⟩
      · exact lt_length_of_getElem? hopening
      · exact hword.lt_length
  | unexpectedToken found position => exact absurd h id
  | invalidWildcard word reason => cases hposition

/-!
## Errors point at their causes
-/

theorem pointsInto_of_stops {front rest : Text} {error : QueryError}
    (hfront : Even (front.count '"')) (h : Lexeme.Stops front.length rest error) :
    error.PointsInto (front ++ rest) := by
  cases h with
  | @character c rest hblank hquery hopening hclosing hquote =>
      exact ⟨getElem?_length_append front c rest, hblank, hquery, hquote,
        fun _ => ⟨hopening, hclosing⟩⟩
  | @inPhrase body c rest hbody hblank hquery hquote =>
      have hsplit : front ++ '"' :: (body ++ c :: rest) = (front ++ '"' :: body) ++ c :: rest := by
        rw [List.append_assoc, List.cons_append]
      have hlength : front.length + 1 + body.length = (front ++ '"' :: body).length := by
        rw [List.length_append, List.length_cons]
        omega
      rw [hsplit, hlength]
      refine ⟨getElem?_length_append _ c rest, hblank, hquery, hquote, ?_⟩
      intro heven
      rw [List.take_left, List.count_append, List.count_cons_self,
        List.count_eq_zero.mpr hbody] at heven
      -- The mark that opens the phrase makes the number odd.
      exact absurd hfront (Nat.even_add_one.mp heven)
  | @unterminated body hbody =>
      refine ⟨getElem?_length_append front '"' body, ?_⟩
      rwa [drop_length_append]
  | @emptyPhrase blanks rest hblanks =>
      exact Or.inr ⟨getElem?_length_append front '"' _,
        nextBehind_append hblanks rfl front '"' rest⟩

section

variable {query : Text} {lexemes : List Lexeme} {position : Nat}

theorem getElem?_of_opening (hscan : Lexeme.scan query = .ok lexemes)
    (hmem : ⟨.opening, position⟩ ∈ lexemes) : query[position]? = some '(' := by
  rcases List.append_of_mem hmem with ⟨front, rest, rfl⟩
  rcases Lexeme.exists_spelling_of_scan hscan with
    ⟨before, spelling, behind, rfl, rfl, hspelling, _⟩
  cases hspelling
  exact getElem?_length_append before '(' behind

theorem getElem?_of_closing (hscan : Lexeme.scan query = .ok lexemes)
    (hmem : ⟨.closing, position⟩ ∈ lexemes) : query[position]? = some ')' := by
  rcases List.append_of_mem hmem with ⟨front, rest, rfl⟩
  rcases Lexeme.exists_spelling_of_scan hscan with
    ⟨before, spelling, behind, rfl, rfl, hspelling, _⟩
  cases hspelling
  exact getElem?_length_append before ')' behind

/-- Behind an opening parenthesis that a closing one follows there are only blanks up to that. -/
theorem nextBehind_of_closing {front rest : List Lexeme} {closed : Nat}
    (hscan : Lexeme.scan query =
      .ok (front ++ ⟨.opening, position⟩ :: ⟨.closing, closed⟩ :: rest)) :
    nextBehind query position = some ')' := by
  rcases Lexeme.exists_spelling_of_scan hscan with
    ⟨before, spelling, behind, rfl, rfl, hspelling, _, hbehind⟩
  cases hspelling
  rcases Lexeme.exists_blanks_of_laysOut hbehind with ⟨blanks, spelling, after, rfl, hblanks, hnext⟩
  cases hnext
  exact nextBehind_append hblanks rfl before '(' after

theorem exists_hasWordAt {symbol : Symbol} (hscan : Lexeme.scan query = .ok lexemes)
    (hmem : ⟨symbol, position⟩ ∈ lexemes) (hletters : symbol.isLettered = true) :
    ∃ word, symbol.IsSpelling word ∧ HasWordAt query position word := by
  rcases List.append_of_mem hmem with ⟨front, rest, rfl⟩
  rcases Lexeme.exists_spelling_of_scan hscan with
    ⟨before, word, behind, rfl, hposition, hspelling, hwhole, _⟩
  rcases hwhole hletters with ⟨hbefore, hbehind⟩
  exact ⟨word, hspelling, before, behind, rfl, hposition,
    (hspelling.of_isLettered hletters).left, hbefore, hbehind⟩

theorem hasKeywordAt_of_mem {keyword : Keyword} (hscan : Lexeme.scan query = .ok lexemes)
    (hmem : ⟨.operator keyword, position⟩ ∈ lexemes) : HasKeywordAt query position keyword := by
  rcases exists_hasWordAt hscan hmem rfl with ⟨word, hspelling, hword⟩
  cases hspelling with
  | operator hkeyword => exact ⟨word, hkeyword, hword⟩

theorem pointsInto_of_blames {front rest : List Lexeme} {lexeme : Lexeme} {error : QueryError}
    (hscan : Lexeme.scan query = .ok (front ++ lexeme :: rest))
    (h : Structure.Walk.Blames lexeme (rest.head?.map Lexeme.symbol) error) :
    error.PointsInto query := by
  rcases lexeme with ⟨symbol, position⟩
  have hmem : ⟨symbol, position⟩ ∈ front ++ ⟨symbol, position⟩ :: rest :=
    List.mem_append_right front List.mem_cons_self
  cases h with
  | emptyGroup hopening hnext =>
      cases hopening
      rcases Option.map_eq_some_iff.mp hnext with ⟨⟨_, closed⟩, hhead, rfl⟩
      rcases List.head?_eq_some_iff.mp hhead with ⟨rest, rfl⟩
      exact Or.inl ⟨getElem?_of_opening hscan hmem, nextBehind_of_closing hscan⟩
  | unbalancedParens hclosing =>
      cases hclosing
      exact Or.inr (getElem?_of_closing hscan hmem)
  | missingOperand hkeyword =>
      cases hkeyword
      exact hasKeywordAt_of_mem hscan hmem
  | tooDeep hsymbol =>
      rcases hsymbol with hopening | hnot
      · cases hopening
        exact Or.inl (getElem?_of_opening hscan hmem)
      · cases hnot
        exact Or.inr (hasKeywordAt_of_mem hscan hmem)

theorem pointsInto_of_compileWords [PatternCompiler] {error : QueryError}
    (hscan : Lexeme.scan query = .ok lexemes)
    (h : Grammar.compileWords (lexemes.map Lexeme.symbol) = .error error) :
    error.PointsInto query := by
  rcases Grammar.compileWords_eq_error h with ⟨before, word, after, hsymbols, hterm, _⟩
  rcases Grammar.ofText_eq_error hterm with ⟨reason, rfl⟩
  have hsymbol : Symbol.word word ∈ lexemes.map Lexeme.symbol := by
    rw [hsymbols]
    exact List.mem_append_right before List.mem_cons_self
  rcases List.mem_map.mp hsymbol with ⟨⟨_, position⟩, hmem, rfl⟩
  rcases exists_hasWordAt hscan hmem rfl with ⟨_, hspelling, hword⟩
  cases hspelling
  exact ⟨position, hword⟩

end

end QueryError

namespace Grammar

/-- A query without lexemes is blank. -/
theorem areBlanks_of_scan {query : Text} (h : Lexeme.scan query = .ok []) : AreBlanks query := by
  rcases Layout.laysOut_of_spells (Lexeme.spells_of_scanFrom h) with
    ⟨⟨_ | ⟨item, items⟩, trailing, _, hblanks⟩, rfl, hlexemes⟩
  · exact hblanks
  · cases hlexemes

theorem pointsInto_of_parse [PatternCompiler] {query : Text} {error : QueryError}
    (h : Node.parse query = .error error) : error.PointsInto query := by
  rw [parse_eq_error_iff, verdictFrom] at h
  cases hscan : Lexeme.scanFrom 0 query with
  | error error' =>
      rw [hscan] at h
      cases h
      rcases Lexeme.stopsBehind_of_scanFrom hscan with ⟨front, rest, rfl, hfront, hstops⟩
      rw [Nat.zero_add] at hstops
      exact QueryError.pointsInto_of_stops hfront hstops
  | ok lexemes =>
      rw [hscan] at h
      change (do Structure.check lexemes; compileWords (lexemes.map Lexeme.symbol)) = _ at h
      cases hcheck : Structure.check lexemes with
      | error error' =>
          rw [hcheck] at h
          cases h
          rcases Structure.blames_of_check hcheck with
            ⟨rfl, rfl⟩ | ⟨front, lexeme, rest, rfl, hblames⟩ | ⟨position, hmem, rfl⟩
          · exact areBlanks_of_scan hscan
          · exact QueryError.pointsInto_of_blames hscan hblames
          · exact Or.inl (QueryError.getElem?_of_opening hscan hmem)
      | ok _ =>
          rw [hcheck] at h
          exact QueryError.pointsInto_of_compileWords hscan h

theorem parse_of_areBlanks [PatternCompiler] {query : Text} (h : AreBlanks query) :
    Node.parse query = .error .empty := by
  rw [parse_eq_error_iff, verdictFrom, Lexeme.scanFrom_blanks h]
  rfl

/--
A query that is refused has at the position of the error, which is that of one of its characters,
what the error says; and only a blank query is refused for being empty.
-/
theorem parse_error_pointsInto [PatternCompiler] (query : Text) :
    (∀ error, Node.parse query = .error error → error.PointsInto query ∧
      ∀ position, error.position? = some position → position < query.length) ∧
    (Node.parse query = .error .empty ↔ ∀ c ∈ query, isBlank c = true) := by
  constructor
  · intro error h
    exact ⟨pointsInto_of_parse h, fun _ => (pointsInto_of_parse h).lt_length⟩
  · exact ⟨pointsInto_of_parse, parse_of_areBlanks⟩

theorem parse_error_pointsInto_phrase :
    letI := PatternCompiler.unlimited
    Node.parse "not \"a (".toList = .error (.unexpectedCharacter '(' 7) ∧
      QueryError.PointsInto "not \"a (".toList (.unexpectedCharacter '(' 7) := by
  let _ := PatternCompiler.unlimited
  have h : Node.parse "not \"a (".toList = .error (.unexpectedCharacter '(' 7) := by
    rw [parse_eq_error_iff]
    cbv
  exact ⟨h, ((parse_error_pointsInto _).left _ h).left⟩

end Grammar

end PaperFilter
