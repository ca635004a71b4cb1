import PaperFilter.Proofs.Query.Acceptance

/-!
# Queries transcribed

A text is transcribed by changing characters one for one, none of them in a way that matters to the
reader of a query, and by letting it stand further on.  A transcribed query is read like the query:
where that has lexemes, or is refused, the transcribed one has the same lexemes and is refused for
the same reason, transcribed.
-/

namespace PaperFilter

/-- The characters that stand for themselves in a query. -/
def marks : List Char :=
  ['(', ')', '"', '*']

/--
A change of characters and a number of places to move on.  Blanks, marks and the characters of words
are kept apart, and a character is a form of a lowercase letter of ASCII before and after or
neither.
-/
structure Transcription where
  change : Char → Char
  offset : Nat
  isBlank_change : ∀ c, Unicode.isBlank (change c) = Unicode.isBlank c
  isQueryChar_change : ∀ c, isQueryChar (change c) = isQueryChar c
  change_eq_mark : ∀ mark ∈ marks, ∀ c, change c = mark ↔ c = mark
  toLower_change : ∀ letter, letter.isLower = true → ∀ c,
    (change c).toLower = letter ↔ c.toLower = letter

namespace Transcription

variable (transcription : Transcription)

/-- The same characters so many places further on. -/
def movedBy (offset : Nat) : Transcription where
  change := id
  offset := offset
  isBlank_change _ := rfl
  isQueryChar_change _ := rfl
  change_eq_mark _ _ _ := Iff.rfl
  toLower_change _ _ _ := Iff.rfl

/-!
## What is transcribed
-/

def text (text : Text) : Text :=
  text.map transcription.change

def symbol : Symbol → Symbol
  | .word text => .word (transcription.text text)
  | .phrase words => .phrase (words.map transcription.text)
  | .opening => .opening
  | .closing => .closing
  | .operator keyword => .operator keyword

def lexeme (lexeme : Lexeme) : Lexeme :=
  ⟨transcription.symbol lexeme.symbol, lexeme.position + transcription.offset⟩

/-- An error names a word as it is transcribed, and gives the reason that it is refused for then. -/
def error [PatternCompiler] : QueryError → QueryError
  | .empty => .empty
  | .unexpectedCharacter ch position =>
      .unexpectedCharacter (transcription.change ch) (position + transcription.offset)
  | .unterminatedQuote position => .unterminatedQuote (position + transcription.offset)
  | .emptyGroup position => .emptyGroup (position + transcription.offset)
  | .unbalancedParens position => .unbalancedParens (position + transcription.offset)
  | .missingOperand keyword position =>
      .missingOperand keyword (position + transcription.offset)
  | .tooDeep limit position => .tooDeep limit (position + transcription.offset)
  | .unexpectedToken found position => .unexpectedToken found (position + transcription.offset)
  | .invalidWildcard word reason =>
      .invalidWildcard (transcription.text word)
        ((Wildcard.ofWord (transcription.text word)).refusal?.getD reason)

/-- An outcome with the error, or the value, transcribed. -/
def outcome [PatternCompiler] {α β : Type} (value : α → β) :
    Except QueryError α → Except QueryError β
  | .ok a => .ok (value a)
  | .error error => .error (transcription.error error)

section

variable [PatternCompiler] {α β γ δ : Type} {value : α → β} {value' : γ → δ}

theorem outcome_map {f : α → γ} {g : β → δ} (hvalue : ∀ a, g (value a) = value' (f a))
    (result : Except QueryError α) :
    (transcription.outcome value result).map g = transcription.outcome value' (result.map f) := by
  cases result with
  | error error => rfl
  | ok a => exact congrArg Except.ok (hvalue a)

theorem outcome_bind {f : α → Except QueryError γ} {g : β → Except QueryError δ}
    (hvalue : ∀ a, g (value a) = transcription.outcome value' (f a))
    (result : Except QueryError α) :
    (transcription.outcome value result).bind g =
      transcription.outcome value' (result.bind f) := by
  cases result with
  | error error => rfl
  | ok a => exact hvalue a

end

/-!
## Words
-/

theorem text_cons (c : Char) (rest : Text) :
    transcription.text (c :: rest) = transcription.change c :: transcription.text rest :=
  rfl

theorem text_movedBy (offset : Nat) (text : Text) : (movedBy offset).text text = text :=
  List.map_id text

theorem text_append (front rest : Text) :
    transcription.text (front ++ rest) = transcription.text front ++ transcription.text rest :=
  List.map_append

theorem length_text (text : Text) : (transcription.text text).length = text.length :=
  List.length_map _

theorem change_mark {mark : Char} (h : mark ∈ marks) : transcription.change mark = mark :=
  (transcription.change_eq_mark mark h mark).mpr rfl

theorem isWord_text {text : Text} (h : IsWord text) : IsWord (transcription.text text) := by
  constructor
  · exact fun hnil => h.left (List.map_eq_nil_iff.mp hnil)
  · intro c hc
    rcases List.mem_map.mp hc with ⟨d, hd, rfl⟩
    rw [transcription.isQueryChar_change]
    exact h.right d hd

theorem endsWord_text {text : Text} (h : EndsWord text) : EndsWord (transcription.text text) := by
  cases text with
  | nil => exact h
  | cons c rest =>
      rw [text_cons]
      apply endsWord_cons
      rw [transcription.isQueryChar_change]
      exact h c rfl

theorem map_toLower_text_iff {letters : Text} (hletters : ∀ letter ∈ letters, letter.isLower = true)
    (word : Text) :
    (transcription.text word).map Char.toLower = letters ↔ word.map Char.toLower = letters := by
  induction word generalizing letters with
  | nil => exact Iff.rfl
  | cons c rest ih =>
      cases letters with
      | nil => simp [text_cons]
      | cons letter others =>
          rcases List.forall_mem_cons.mp hletters with ⟨hletter, hothers⟩
          rw [text_cons, List.map_cons, List.map_cons, List.cons.injEq, List.cons.injEq,
            transcription.toLower_change letter hletter, ih hothers]

theorem isLower_of_mem_keyword (keyword : Keyword) :
    ∀ letter ∈ keyword.text, letter.isLower = true := by
  cases keyword <;> exact List.all_eq_true.mp rfl

/-- A transcribed word is a keyword exactly if the word is. -/
theorem ofWord_text (word : Text) :
    Symbol.ofWord (transcription.text word) = transcription.symbol (Symbol.ofWord word) := by
  have hkeyword := fun keyword =>
    transcription.map_toLower_text_iff (isLower_of_mem_keyword keyword) word
  simp only [Symbol.ofWord, hkeyword]
  split
  · rfl
  · split
    · rfl
    · split
      · rfl
      · rfl

/-!
## Lexemes
-/

section

variable [PatternCompiler]

theorem scanPhrase_text (start position : Nat) (text : Text) :
    (Lexeme.scanPhrase (start + transcription.offset) (position + transcription.offset)
        (transcription.text text)).map Shorter.parts =
      transcription.outcome
        (fun found => ((found.1.1.map transcription.text, found.1.2 + transcription.offset),
          transcription.text found.2))
        ((Lexeme.scanPhrase start position text).map Shorter.parts) := by
  induction position, text using Lexeme.scanPhrase.induct with
  | case1 position =>
      rw [Lexeme.scanPhrase, text, List.map_nil, Lexeme.scanPhrase]
      rfl
  | case2 position rest =>
      rw [text_cons, transcription.change_mark (by decide), Lexeme.scanPhrase_quote,
        Lexeme.scanPhrase_quote, Nat.add_right_comm]
      rfl
  | case3 position c rest _ hblank ih =>
      have hchanged : Unicode.isBlank (transcription.change c) = true := by
        rw [transcription.isBlank_change, hblank]
      rw [text_cons, Lexeme.scanPhrase_blank hchanged, Lexeme.scanPhrase_blank hblank, ← ih,
        Nat.add_right_comm]
  | case4 =>
      rename_i position c rest _ _ hc letters word ih
      have hword := isWord_cons_takeWhile hc rest
      have htext := endsWord_dropWhile rest
      rw [← cons_takeWhile_append_dropWhile c rest, text_append,
        Lexeme.scanPhrase_word (transcription.isWord_text hword)
          (transcription.endsWord_text htext),
        Lexeme.scanPhrase_word hword htext, length_text, Nat.add_right_comm]
      refine (congrArg (Except.map _) ih).trans ?_
      apply transcription.outcome_map
      intro found
      rfl
  | case5 position c rest hquote hblank hc =>
      rw [text_cons, Lexeme.scanPhrase, Lexeme.scanPhrase, if_neg hquote, if_neg hblank, if_neg hc,
        transcription.isBlank_change, if_neg hblank, transcription.isQueryChar_change, if_neg hc,
        if_neg]
      · rfl
      · exact fun hcontra =>
          hquote ((transcription.change_eq_mark '"' (by decide) c).mp hcontra)

theorem scanFrom_text (position : Nat) (text : Text) :
    Lexeme.scanFrom (position + transcription.offset) (transcription.text text) =
      transcription.outcome (List.map transcription.lexeme) (Lexeme.scanFrom position text) := by
  have hcons : ∀ (symbol : Symbol) (position : Nat) (result : Except QueryError (List Lexeme)),
      (transcription.outcome (List.map transcription.lexeme) result).map
          (fun lexemes => transcription.lexeme ⟨symbol, position⟩ :: lexemes) =
        transcription.outcome (List.map transcription.lexeme)
          (result.map fun lexemes => ⟨symbol, position⟩ :: lexemes) := by
    intro symbol position result
    apply transcription.outcome_map
    intro lexemes
    rfl
  induction position, text using Lexeme.scanFrom.induct with
  | case1 position =>
      rw [Lexeme.scanFrom, text, List.map_nil, Lexeme.scanFrom]
      rfl
  | case2 position c rest hblank ih =>
      have hchanged : Unicode.isBlank (transcription.change c) = true := by
        rw [transcription.isBlank_change, hblank]
      rw [text_cons, Lexeme.scanFrom_blank hchanged, Lexeme.scanFrom_blank hblank, ← ih,
        Nat.add_right_comm]
  | case3 position rest _ ih =>
      rw [text_cons, transcription.change_mark (by decide), Lexeme.scanFrom_opening,
        Lexeme.scanFrom_opening, Nat.add_right_comm, ih]
      exact hcons .opening position _
  | case4 position rest _ _ ih =>
      rw [text_cons, transcription.change_mark (by decide), Lexeme.scanFrom_closing,
        Lexeme.scanFrom_closing, Nat.add_right_comm, ih]
      exact hcons .closing position _
  | case5 position rest _ _ _ ih =>
      rw [text_cons, transcription.change_mark (by decide), Lexeme.scanFrom_quote,
        Lexeme.scanFrom_quote, Nat.add_right_comm, transcription.scanPhrase_text]
      cases Lexeme.scanPhrase position (position + 1) rest with
      | error error => rfl
      | ok phrase =>
          have hrest := ih phrase phrase.value.2
          simp only [outcome, Except.map, Except.bind, Shorter.parts, List.isEmpty_map]
          split
          · rfl
          · rw [hrest]
            exact hcons (.phrase phrase.value.1) position _
  | case6 =>
      rename_i position c rest _ _ _ _ hc letters word ih
      have hword := isWord_cons_takeWhile hc rest
      have htext := endsWord_dropWhile rest
      rw [← cons_takeWhile_append_dropWhile c rest, text_append,
        Lexeme.scanFrom_word (transcription.isWord_text hword) (transcription.endsWord_text htext),
        Lexeme.scanFrom_word hword htext, length_text, Nat.add_right_comm, ofWord_text]
      exact (congrArg (Except.map _) ih).trans (hcons _ position _)
  | case7 position c rest hblank hopening hclosing hquote hc =>
      have hmark : ∀ mark ∈ marks, c ≠ mark → transcription.change c ≠ mark :=
        fun mark hmem hne hcontra => hne ((transcription.change_eq_mark mark hmem c).mp hcontra)
      rw [text_cons, Lexeme.scanFrom, Lexeme.scanFrom, if_neg hblank, if_neg hopening,
        if_neg hclosing, if_neg hquote, if_neg hc, transcription.isBlank_change, if_neg hblank,
        transcription.isQueryChar_change, if_neg hc, if_neg (hmark '(' (by decide) hopening),
        if_neg (hmark ')' (by decide) hclosing), if_neg (hmark '"' (by decide) hquote)]
      rfl

end

/-!
## Structure
-/

/-- What a walk over transcribed lexemes has seen where a walk over the lexemes has seen this. -/
def walk (walk : Structure.Walk) : Structure.Walk :=
  ⟨walk.opened.map (· + transcription.offset), walk.nots, walk.previous.map transcription.symbol⟩

theorem any_startsOperand (next : Option Symbol) :
    (next.map transcription.symbol).any Structure.startsOperand =
      next.any Structure.startsOperand := by
  rcases next with _ | symbol
  · rfl
  · cases symbol with
    | operator keyword => cases keyword <;> rfl
    | _ => rfl

theorem any_endsOperand (previous : Option Symbol) :
    (previous.map transcription.symbol).any Structure.endsOperand =
      previous.any Structure.endsOperand := by
  rcases previous with _ | symbol
  · rfl
  · cases symbol <;> rfl

theorem map_symbol_eq_closing_iff {next : Option Symbol} :
    next.map transcription.symbol = some .closing ↔ next = some .closing := by
  rcases next with _ | symbol
  · exact Iff.rfl
  · cases symbol <;> simp [Transcription.symbol]

theorem notsBehind_symbol (nots : Nat) (symbol : Symbol) :
    Structure.notsBehind nots (transcription.symbol symbol) =
      Structure.notsBehind nots symbol := by
  cases symbol <;> rfl

section

variable [PatternCompiler]

theorem openedBehind_lexeme (walk : Structure.Walk) (lexeme : Lexeme) (next : Option Symbol) :
    (transcription.walk walk).openedBehind (transcription.lexeme lexeme)
        (next.map transcription.symbol) =
      transcription.outcome (List.map (· + transcription.offset))
        (walk.openedBehind lexeme next) := by
  rcases lexeme with ⟨symbol, position⟩
  cases symbol with
  | word text => rfl
  | phrase words => rfl
  | opening =>
      simp only [Structure.Walk.openedBehind, Transcription.lexeme, Transcription.symbol,
        transcription.map_symbol_eq_closing_iff]
      split <;> rfl
  | closing =>
      rcases walk with ⟨opened, nots, previous⟩
      cases opened <;> rfl
  | operator keyword =>
      have hnext := transcription.any_startsOperand next
      have hprevious := transcription.any_endsOperand walk.previous
      cases keyword <;>
        simp only [Structure.Walk.openedBehind, Transcription.lexeme, Transcription.symbol,
          Transcription.walk, hnext, hprevious] <;>
        split <;> rfl

theorem step_lexeme (walk : Structure.Walk) (lexeme : Lexeme) (next : Option Symbol) :
    (transcription.walk walk).step (transcription.lexeme lexeme) (next.map transcription.symbol) =
      transcription.outcome transcription.walk (walk.step lexeme next) := by
  have hopened := transcription.openedBehind_lexeme walk lexeme next
  cases hbehind : walk.openedBehind lexeme next with
  | error error =>
      rw [hbehind] at hopened
      rw [Structure.Walk.step, hopened, Structure.Walk.step, hbehind]
      rfl
  | ok opened =>
      rw [hbehind] at hopened
      rw [Structure.Walk.step_eq hopened, Structure.Walk.step_eq hbehind, List.length_map]
      change (if opened.length +
        Structure.notsBehind walk.nots (transcription.symbol lexeme.symbol) >
          Structure.maxNesting then _ else _) = _
      rw [notsBehind_symbol]
      split
      · rfl
      · simp only [outcome, Transcription.walk, Transcription.lexeme, notsBehind_symbol,
          Option.map_some]

theorem run_lexemes (walk : Structure.Walk) (lexemes : List Lexeme) :
    (transcription.walk walk).run (lexemes.map transcription.lexeme) =
      transcription.outcome id (walk.run lexemes) := by
  induction lexemes generalizing walk with
  | nil =>
      rw [List.map_nil, Structure.Walk.run, Structure.Walk.run, Transcription.walk,
        List.getLast?_map]
      cases walk.opened.getLast? <;> rfl
  | cons lexeme rest ih =>
      have hnext : (rest.map transcription.lexeme).head?.map Lexeme.symbol =
          (rest.head?.map Lexeme.symbol).map transcription.symbol := by
        cases rest <;> rfl
      rw [List.map_cons, Structure.Walk.run, Structure.Walk.run, hnext, step_lexeme]
      exact transcription.outcome_bind ih _

theorem check_lexemes (lexemes : List Lexeme) :
    Structure.check (lexemes.map transcription.lexeme) =
      transcription.outcome id (Structure.check lexemes) := by
  cases lexemes with
  | nil => rfl
  | cons lexeme rest => exact transcription.run_lexemes Structure.Walk.start (lexeme :: rest)

/-!
## Words that compile
-/

/-- The words among the symbols compile, transcribed, exactly if they do as they are. -/
def KeepsCompiling (symbols : List Symbol) : Prop :=
  ∀ text, .word text ∈ symbols →
    (Grammar.Compiles (transcription.text text) ↔ Grammar.Compiles text)

theorem KeepsCompiling.mono {transcription : Transcription} {symbols part : List Symbol}
    (h : transcription.KeepsCompiling symbols) (hpart : part ⊆ symbols) :
    transcription.KeepsCompiling part :=
  fun text hmem => h text (hpart hmem)

theorem keepsCompiling_movedBy (offset : Nat) (symbols : List Symbol) :
    (movedBy offset).KeepsCompiling symbols := by
  intro text _
  rw [text_movedBy]

theorem ofText_text {text : Text}
    (h : Grammar.Compiles (transcription.text text) ↔ Grammar.Compiles text) :
    Term.ofText (transcription.text text) =
      transcription.outcome (fun term => ⟨transcription.text term.text⟩) (Term.ofText text) := by
  rw [Grammar.compiles_iff, Grammar.compiles_iff] at h
  rw [Term.ofText, Term.ofText]
  cases hrefusal : (Wildcard.ofWord text).refusal? with
  | none =>
      rw [h.mpr hrefusal]
      rfl
  | some reason =>
      have hrefused : (Wildcard.ofWord (transcription.text text)).refusal? ≠ none := by
        rw [Ne, h, hrefusal]
        exact Option.some_ne_none reason
      rcases Option.ne_none_iff_exists'.mp hrefused with ⟨reason', hreason⟩
      simp only [outcome, error, hreason, Option.getD_some]

theorem compileWord_symbol {symbol : Symbol} (h : transcription.KeepsCompiling [symbol]) :
    Grammar.compileWord (transcription.symbol symbol) =
      transcription.outcome id (Grammar.compileWord symbol) := by
  cases symbol with
  | word text =>
      rw [Transcription.symbol, Grammar.compileWord, Grammar.compileWord,
        transcription.ofText_text (h text List.mem_cons_self)]
      apply transcription.outcome_map
      intro term
      rfl
  | _ => rfl

theorem compileWords_symbols {symbols : List Symbol} (h : transcription.KeepsCompiling symbols) :
    Grammar.compileWords (symbols.map transcription.symbol) =
      transcription.outcome id (Grammar.compileWords symbols) := by
  induction symbols with
  | nil => rfl
  | cons symbol rest ih =>
      have hsymbol : transcription.KeepsCompiling [symbol] := h.mono (by simp)
      rw [List.map_cons, Grammar.compileWords, Grammar.compileWords,
        transcription.compileWord_symbol hsymbol]
      cases Grammar.compileWord symbol with
      | error error => rfl
      | ok _ => exact ih (h.mono (List.subset_cons_self symbol rest))

end

end Transcription
end PaperFilter
