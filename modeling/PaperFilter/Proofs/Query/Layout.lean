import Mathlib.Data.List.Chain
import PaperFilter.Proofs.Query.Canonical
import PaperFilter.Proofs.Query.Refusal

/-!
# Layouts of a query

A query is laid out as the spellings of its symbols, one after the other, with blanks in front of
each and behind the last.  Two neighbours that are both spelled with characters of words have to
have a blank between them.  Scanning accepts exactly the texts that have a layout, and finds each
symbol at the place where its spelling begins.
-/

namespace PaperFilter

theorem endsWord_append_of_areBlanks {blanks : Text} (h : AreBlanks blanks) (hne : blanks ≠ [])
    (text : Text) : EndsWord (blanks ++ text) := by
  cases blanks with
  | nil => exact absurd rfl hne
  | cons c rest =>
      exact endsWord_cons (isQueryChar_eq_false_of_isBlank (areBlanks_cons.mp h).left) _

theorem IsWord.not_endsWord_append {word : Text} (h : IsWord word) (text : Text) :
    ¬ EndsWord (word ++ text) := by
  rcases h with ⟨hne, hchars⟩
  cases word with
  | nil => exact absurd rfl hne
  | cons c letters =>
      intro hends
      have hquery := hends c rfl
      rw [hchars c List.mem_cons_self] at hquery
      cases hquery

theorem isQueryChar_of_toLower {c : Char} (h : isQueryChar c.toLower = true) :
    isQueryChar c = true := by
  by_cases hrange : c.val ≥ 'A'.val ∧ c.val ≤ 'Z'.val
  · have hupper : c.isUpper = true := decide_eq_true hrange
    have hletter : c.isAlphanum = true := by
      change (c.isUpper || c.isLower || c.isDigit) = true
      rw [hupper]
      rfl
    rw [isQueryChar, hletter]
    rfl
  · have hsame : c.toLower = c := dif_neg hrange
    rwa [hsame] at h

/-- A keyword is a word in whatever letter case. -/
theorem isWord_of_map_toLower {text : Text} {keyword : Keyword}
    (h : text.map Char.toLower = keyword.text) : IsWord text := by
  rcases isWord_keyword keyword with ⟨hne, hchars⟩
  constructor
  · rintro rfl
    exact hne h.symm
  · intro c hc
    apply isQueryChar_of_toLower
    apply hchars
    rw [← h]
    exact List.mem_map_of_mem hc

/-!
## Spellings
-/

/-- The words in order, with blanks between each two. -/
inductive AreWords : List Text → Text → Prop where
  | only {word : Text} : IsWord word → AreWords [word] word
  | more {word gap text : Text} {words : List Text} :
      IsWord word → AreBlanks gap → gap ≠ [] → AreWords words text →
        AreWords (word :: words) (word ++ (gap ++ text))

/-- The words with blanks between each two, and with blanks in front and behind or without. -/
def AreSpacedWords (words : List Text) (text : Text) : Prop :=
  ∃ front inner behind, text = front ++ (inner ++ behind) ∧
    AreBlanks front ∧ AreWords words inner ∧ AreBlanks behind

theorem AreWords.ne_nil {words : List Text} {inner : Text} (h : AreWords words inner) :
    words ≠ [] := by
  cases h <;> exact List.cons_ne_nil _ _

theorem AreWords.not_endsWord_append {words : List Text} {inner : Text} (h : AreWords words inner)
    (text : Text) : ¬ EndsWord (inner ++ text) := by
  cases h with
  | only hword => exact hword.not_endsWord_append text
  | more hword _ _ _ =>
      rw [List.append_assoc]
      exact hword.not_endsWord_append _

namespace Symbol

/-- How a symbol is spelled: a word that is no keyword as it is, a keyword in any ASCII letter case,
and a phrase as its words in quotation marks. -/
inductive IsSpelling : Symbol → Text → Prop where
  | word {text : Text} :
      IsWord text → (∀ keyword : Keyword, text.map Char.toLower ≠ keyword.text) →
        IsSpelling (.word text) text
  | phrase {words : List Text} {body : Text} :
      AreSpacedWords words body → IsSpelling (.phrase words) ('"' :: (body ++ ['"']))
  | opening : IsSpelling .opening ['(']
  | closing : IsSpelling .closing [')']
  | operator {keyword : Keyword} {text : Text} :
      text.map Char.toLower = keyword.text → IsSpelling (.operator keyword) text

/-- The symbol is spelled with characters that words are made of. -/
def isLettered : Symbol → Bool
  | .word _ => true
  | .phrase _ => false
  | .opening => false
  | .closing => false
  | .operator _ => true

section

variable {symbol : Symbol} {text : Text}

theorem ofWord_eq_operator {keyword : Keyword} (h : text.map Char.toLower = keyword.text) :
    ofWord text = .operator keyword := by
  cases keyword <;> simp [ofWord, h, Keyword.text]

theorem isSpelling_ofWord (h : IsWord text) : IsSpelling (ofWord text) text := by
  by_cases hkeyword : ∃ keyword : Keyword, text.map Char.toLower = keyword.text
  · rcases hkeyword with ⟨keyword, hkeyword⟩
    rw [ofWord_eq_operator hkeyword]
    exact .operator hkeyword
  · have hne : ∀ keyword : Keyword, text.map Char.toLower ≠ keyword.text :=
      fun keyword hcontra => hkeyword ⟨keyword, hcontra⟩
    rw [ofWord_eq_word hne]
    exact .word h hne

/-- What is spelled with characters of words is a word, and the symbol is the one it stands for. -/
theorem IsSpelling.of_isLettered (h : symbol.IsSpelling text)
    (hletters : symbol.isLettered = true) : IsWord text ∧ ofWord text = symbol := by
  cases h with
  | word hword hkeyword => exact ⟨hword, ofWord_eq_word hkeyword⟩
  | phrase _ => cases hletters
  | opening => cases hletters
  | closing => cases hletters
  | operator hkeyword => exact ⟨isWord_of_map_toLower hkeyword, ofWord_eq_operator hkeyword⟩

/-- Every other spelling begins and ends with a mark that is no character of words. -/
theorem IsSpelling.of_not_isLettered (h : symbol.IsSpelling text)
    (hletters : symbol.isLettered = false) :
    (∃ mark rest, text = mark :: rest ∧ isQueryChar mark = false) ∧
      ∃ rest mark, text = rest ++ [mark] ∧ isQueryChar mark = false := by
  cases h with
  | word _ _ => cases hletters
  | @phrase words body _ => exact ⟨⟨'"', _, rfl, rfl⟩, '"' :: body, '"', rfl, rfl⟩
  | opening => exact ⟨⟨'(', [], rfl, rfl⟩, [], '(', rfl, rfl⟩
  | closing => exact ⟨⟨')', [], rfl, rfl⟩, [], ')', rfl, rfl⟩
  | operator _ => cases hletters

end

end Symbol

namespace Lexeme

/-!
## Phrases
-/

theorem spellsPhrase_append_of_areBlanks {blanks text : Text} {words : List Text}
    (hblanks : AreBlanks blanks) (h : SpellsPhrase text words) :
    SpellsPhrase (blanks ++ text) words := by
  induction blanks with
  | nil => exact h
  | cons c rest ih =>
      rcases areBlanks_cons.mp hblanks with ⟨hblank, hrest⟩
      exact .blank hblank (ih hrest)

theorem spellsPhrase_of_areBlanks {blanks : Text} (h : AreBlanks blanks) :
    SpellsPhrase blanks [] := by
  have hspells := spellsPhrase_append_of_areBlanks h .nil
  rwa [List.append_nil] at hspells

theorem areBlanks_of_spellsPhrase {body : Text} (h : SpellsPhrase body []) : AreBlanks body := by
  generalize hwords : ([] : List Text) = words at h
  induction h with
  | nil => exact areBlanks_nil
  | blank hblank _ ih => exact areBlanks_cons.mpr ⟨hblank, ih hwords⟩
  | word _ _ _ _ => cases hwords

/-- Words with blanks between them, and blanks behind the last, are what stands in quotes. -/
theorem spellsPhrase_of_areWords {words : List Text} {inner behind : Text}
    (h : AreWords words inner) (hbehind : AreBlanks behind) :
    SpellsPhrase (inner ++ behind) words := by
  induction h with
  | only hword => exact .word hword (endsWord_blanks hbehind) (spellsPhrase_of_areBlanks hbehind)
  | @more word gap text words hword hgap hne _ ih =>
      rw [List.append_assoc, List.append_assoc]
      exact .word hword (endsWord_append_of_areBlanks hgap hne _)
        (spellsPhrase_append_of_areBlanks hgap ih)

theorem areSpacedWords_of_spellsPhrase {body : Text} {words : List Text}
    (h : SpellsPhrase body words) (hne : words ≠ []) : AreSpacedWords words body := by
  induction h with
  | nil => exact absurd rfl hne
  | @blank c text words hblank _ ih =>
      rcases ih hne with ⟨front, inner, behind, rfl, hfront, hinner, hbehind⟩
      exact ⟨c :: front, inner, behind, rfl, areBlanks_cons.mpr ⟨hblank, hfront⟩, hinner, hbehind⟩
  | @word word text words hword hends htext ih =>
      cases words with
      | nil =>
          exact ⟨[], word, text, rfl, areBlanks_nil, .only hword, areBlanks_of_spellsPhrase htext⟩
      | cons second others =>
          rcases ih (List.cons_ne_nil _ _) with ⟨gap, inner, behind, rfl, hgap, hinner, hbehind⟩
          -- Without a gap the first word would go on into the second.
          have hgapNe : gap ≠ [] := by
            rintro rfl
            exact hinner.not_endsWord_append behind hends
          refine ⟨[], word ++ (gap ++ inner), behind, ?_, areBlanks_nil,
            .more hword hgap hgapNe hinner, hbehind⟩
          rw [List.nil_append, List.append_assoc, List.append_assoc]

theorem spellsPhrase_iff {body : Text} {words : List Text} :
    SpellsPhrase body words ∧ words ≠ [] ↔ AreSpacedWords words body := by
  constructor
  · rintro ⟨h, hne⟩
    exact areSpacedWords_of_spellsPhrase h hne
  · rintro ⟨front, inner, behind, rfl, hfront, hinner, hbehind⟩
    exact ⟨spellsPhrase_append_of_areBlanks hfront (spellsPhrase_of_areWords hinner hbehind),
      hinner.ne_nil⟩

/-!
## Whole spellings
-/

theorem Spells.blanks_append {position : Nat} {blanks text : Text} {lexemes : List Lexeme}
    (hblanks : AreBlanks blanks) (h : Spells (position + blanks.length) text lexemes) :
    Spells position (blanks ++ text) lexemes := by
  induction blanks generalizing position with
  | nil => exact h
  | cons c rest ih =>
      rcases areBlanks_cons.mp hblanks with ⟨hblank, hrest⟩
      rw [List.length_cons, Nat.add_comm rest.length, ← Nat.add_assoc] at h
      exact .blank hblank (ih hrest h)

theorem length_quoted (body : Text) : ('"' :: (body ++ ['"'])).length = body.length + 2 := by
  rw [List.length_cons, List.length_append, List.length_singleton]

theorem Spells.spelling_append {position : Nat} {symbol : Symbol} {spelling text : Text}
    {lexemes : List Lexeme} (hspelling : symbol.IsSpelling spelling)
    (hends : symbol.isLettered = true → EndsWord text)
    (h : Spells (position + spelling.length) text lexemes) :
    Spells position (spelling ++ text) (⟨symbol, position⟩ :: lexemes) := by
  cases hletters : symbol.isLettered with
  | true =>
      rcases hspelling.of_isLettered hletters with ⟨hword, rfl⟩
      exact .word hword (hends hletters) h
  | false =>
      cases hspelling with
      | word _ _ => cases hletters
      | @phrase words body hwords =>
          rcases spellsPhrase_iff.mpr hwords with ⟨hbody, hne⟩
          rw [length_quoted, ← Nat.add_assoc] at h
          rw [List.cons_append, List.append_assoc, List.singleton_append]
          exact .phrase hbody hne h
      | opening => exact .opening h
      | closing => exact .closing h
      | operator _ => cases hletters

end Lexeme

/-!
## Layouts
-/

namespace Layout

/-- A symbol as it stands in a text: some blanks, and behind them its spelling. -/
structure Item where
  blanks : Text
  symbol : Symbol
  spelling : Text
  areBlanks : AreBlanks blanks
  isSpelling : symbol.IsSpelling spelling

namespace Item

def text (item : Item) : Text :=
  item.blanks ++ item.spelling

/-- Where both are spelled with characters of words there is a blank between them. -/
def StandsApart (first second : Item) : Prop :=
  first.symbol.isLettered = true → second.symbol.isLettered = true → second.blanks ≠ []

/-- The item with one more blank in front. -/
def indent (c : Char) (hc : Unicode.isBlank c = true) (item : Item) : Item :=
  ⟨c :: item.blanks, item.symbol, item.spelling, areBlanks_cons.mpr ⟨hc, item.areBlanks⟩,
    item.isSpelling⟩

end Item

/-- The lexemes of items of which the first stands at a position. -/
def lexemesFrom (position : Nat) : List Item → List Lexeme
  | [] => []
  | item :: rest =>
      ⟨item.symbol, position + item.blanks.length⟩ ::
        lexemesFrom (position + item.text.length) rest

end Layout

/-- The symbols of a text as they stand in it, and the blanks behind the last. -/
structure Layout where
  items : List Layout.Item
  trailing : Text
  standApart : items.IsChain Layout.Item.StandsApart
  areBlanks : AreBlanks trailing

namespace Layout

def text (layout : Layout) : Text :=
  layout.items.flatMap Item.text ++ layout.trailing

def lexemes (layout : Layout) : List Lexeme :=
  lexemesFrom 0 layout.items

/-- The layout with one more blank in front. -/
def indent (c : Char) (hc : Unicode.isBlank c = true) : Layout → Layout
  | ⟨[], trailing, standApart, areBlanks⟩ =>
      ⟨[], c :: trailing, standApart, areBlanks_cons.mpr ⟨hc, areBlanks⟩⟩
  | ⟨item :: items, trailing, standApart, areBlanks⟩ =>
      ⟨item.indent c hc :: items, trailing,
        List.isChain_cons.mpr ⟨(List.isChain_cons.mp standApart).left, standApart.tail⟩, areBlanks⟩

/-- The layout with one more item in front. -/
def cons (item : Item) (layout : Layout) (h : ∀ next ∈ layout.items.head?, item.StandsApart next) :
    Layout :=
  ⟨item :: layout.items, layout.trailing, List.isChain_cons.mpr ⟨h, layout.standApart⟩,
    layout.areBlanks⟩

theorem text_indent {c : Char} (hc : Unicode.isBlank c = true) (layout : Layout) :
    (layout.indent c hc).text = c :: layout.text := by
  rcases layout with ⟨items, trailing, _, _⟩
  cases items <;> rfl

theorem lexemesFrom_indent {c : Char} (hc : Unicode.isBlank c = true) (layout : Layout)
    (position : Nat) :
    lexemesFrom position (layout.indent c hc).items = lexemesFrom (position + 1) layout.items := by
  rcases layout with ⟨items, trailing, _, _⟩
  cases items with
  | nil => rfl
  | cons item items =>
      have hblanks : position + (c :: item.blanks).length = position + 1 + item.blanks.length := by
        rw [List.length_cons]
        omega
      have htext : position + (item.indent c hc).text.length =
          position + 1 + item.text.length := by
        simp only [Item.indent, Item.text, List.length_append, List.length_cons]
        omega
      simp only [indent, lexemesFrom, htext]
      simp only [Item.indent, hblanks]

theorem text_cons (item : Item) (layout : Layout)
    (h : ∀ next ∈ layout.items.head?, item.StandsApart next) :
    (layout.cons item h).text = item.blanks ++ (item.spelling ++ layout.text) := by
  simp only [cons, text, Item.text, List.flatMap_cons, List.append_assoc]

/-- A word does not go on into a layout exactly if its first item stands apart from the word. -/
theorem standsApart_iff {item : Item} (hletters : item.symbol.isLettered = true)
    (layout : Layout) :
    (∀ next ∈ layout.items.head?, item.StandsApart next) ↔ EndsWord layout.text := by
  rcases layout with ⟨items, trailing, standApart, areBlanks⟩
  cases items with
  | nil => exact ⟨fun _ => Lexeme.endsWord_blanks areBlanks, fun _ _ hmem => nomatch hmem⟩
  | cons next items =>
      have htext : text ⟨next :: items, trailing, standApart, areBlanks⟩ =
          next.blanks ++ (next.spelling ++ (items.flatMap Item.text ++ trailing)) := by
        simp only [text, Item.text, List.flatMap_cons, List.append_assoc]
      rw [htext]
      constructor
      · intro h
        by_cases hnil : next.blanks = []
        · cases hnext : next.symbol.isLettered with
          | true => exact absurd hnil (h next rfl hletters hnext)
          | false =>
              rcases (next.isSpelling.of_not_isLettered hnext).left with ⟨mark, rest, hmark, hquery⟩
              rw [hnil, hmark]
              exact endsWord_cons hquery _
        · exact endsWord_append_of_areBlanks next.areBlanks hnil _
      · rintro hends _ ⟨rfl⟩ _ hnext hnil
        rw [hnil] at hends
        exact (next.isSpelling.of_isLettered hnext).left.not_endsWord_append _ hends

/-!
## Scanning a layout
-/

/-- The text, which stands at a position, has a layout with the lexemes. -/
def LaysOut (position : Nat) (text : Text) (lexemes : List Lexeme) : Prop :=
  ∃ layout : Layout, layout.text = text ∧ lexemesFrom position layout.items = lexemes

theorem LaysOut.spelling_append {position : Nat} {symbol : Symbol} {spelling text : Text}
    {lexemes : List Lexeme} (hspelling : symbol.IsSpelling spelling)
    (hends : symbol.isLettered = true → EndsWord text)
    (h : LaysOut (position + spelling.length) text lexemes) :
    LaysOut position (spelling ++ text) (⟨symbol, position⟩ :: lexemes) := by
  rcases h with ⟨layout, rfl, rfl⟩
  let item : Item := ⟨[], symbol, spelling, areBlanks_nil, hspelling⟩
  have hapart : ∀ next ∈ layout.items.head?, item.StandsApart next := by
    intro next hnext hletters
    exact (standsApart_iff hletters layout).mpr (hends hletters) next hnext hletters
  exact ⟨layout.cons item hapart, text_cons item layout hapart, rfl⟩

theorem laysOut_of_spells {position : Nat} {text : Text} {lexemes : List Lexeme}
    (h : Lexeme.Spells position text lexemes) : LaysOut position text lexemes := by
  induction h with
  | nil position => exact ⟨⟨[], [], .nil, areBlanks_nil⟩, rfl, rfl⟩
  | blank hblank _ ih =>
      rcases ih with ⟨layout, rfl, rfl⟩
      exact ⟨layout.indent _ hblank, text_indent hblank layout, lexemesFrom_indent hblank layout _⟩
  | opening _ ih => exact .spelling_append .opening nofun ih
  | closing _ ih => exact .spelling_append .closing nofun ih
  | @phrase position body text words lexemes hbody hne _ ih =>
      rw [Nat.add_assoc, ← Lexeme.length_quoted] at ih
      have hwords := Lexeme.spellsPhrase_iff.mp ⟨hbody, hne⟩
      have hlaid := LaysOut.spelling_append (.phrase hwords) nofun ih
      rwa [List.cons_append, List.append_assoc, List.singleton_append] at hlaid
  | word hword hends _ ih =>
      exact .spelling_append (Symbol.isSpelling_ofWord hword) (fun _ => hends) ih

theorem spells (layout : Layout) (position : Nat) :
    Lexeme.Spells position layout.text (lexemesFrom position layout.items) := by
  rcases layout with ⟨items, trailing, standApart, areBlanks⟩
  induction items generalizing position with
  | nil =>
      have hspells : Lexeme.Spells position (trailing ++ []) [] := .blanks_append areBlanks (.nil _)
      rwa [List.append_nil] at hspells
  | cons item items ih =>
      rcases List.isChain_cons.mp standApart with ⟨hnext, hitems⟩
      let layout : Layout := ⟨items, trailing, hitems, areBlanks⟩
      have hrest : Lexeme.Spells (position + item.blanks.length + item.spelling.length) layout.text
          (lexemesFrom (position + item.text.length) items) := by
        rw [Nat.add_assoc, ← List.length_append]
        exact ih _ hitems
      have hspells := (hrest.spelling_append item.isSpelling fun hletters =>
        (standsApart_iff hletters layout).mp hnext).blanks_append item.areBlanks
      exact (text_cons item layout hnext).symm ▸ hspells

/-!
## Where a lexeme stands
-/

theorem lexemesFrom_eq_append {position : Nat} {items : List Item} {front rest : List Lexeme}
    (h : lexemesFrom position items = front ++ rest) :
    ∃ before after, items = before ++ after ∧
      lexemesFrom (position + (before.flatMap Item.text).length) after = rest := by
  induction front generalizing position items with
  | nil => exact ⟨[], items, rfl, h⟩
  | cons lexeme front ih =>
      cases items with
      | nil => cases h
      | cons item items =>
          rcases ih (List.cons.inj h).right with ⟨before, after, rfl, hrest⟩
          refine ⟨item :: before, after, rfl, ?_⟩
          rw [List.flatMap_cons, List.length_append, ← Nat.add_assoc]
          exact hrest

/-- An item that is spelled with characters of words is no part of a longer word. -/
theorem not_isQueryChar_of_getLast? {before after : List Item} {item : Item}
    (h : (before ++ item :: after).IsChain Item.StandsApart)
    (hletters : item.symbol.isLettered = true) {c : Char}
    (hc : (before.flatMap Item.text ++ item.blanks).getLast? = some c) :
    isQueryChar c = false := by
  have hapart := (List.isChain_append.mp h).right.right
  rcases List.eq_nil_or_concat item.blanks with hblanks | ⟨gap, blank, hblanks⟩
  · rcases List.eq_nil_or_concat before with rfl | ⟨others, last, rfl⟩
    · rw [hblanks] at hc
      cases hc
    · have hlast : last.symbol.isLettered = false := by
        apply Bool.eq_false_iff.mpr
        intro hlast
        exact hapart last (by simp) item rfl hlast hletters hblanks
      rcases (last.isSpelling.of_not_isLettered hlast).right with ⟨rest, mark, hmark, hquery⟩
      rw [hblanks, List.append_nil, List.concat_eq_append, List.flatMap_append,
        List.flatMap_singleton, Item.text, hmark, ← List.append_assoc, ← List.append_assoc,
        List.getLast?_concat] at hc
      cases hc
      exact hquery
  · have hblank := item.areBlanks blank (hblanks ▸ by simp)
    rw [hblanks, List.concat_eq_append, ← List.append_assoc, List.getLast?_concat] at hc
    cases hc
    exact isQueryChar_eq_false_of_isBlank hblank

end Layout

namespace Lexeme

/--
A lexeme stands in its query with its spelling at its position, and the lexemes behind it are those
of the text behind the spelling.  Where it is spelled with characters of words, it is a whole word.
-/
theorem exists_spelling_of_scan {query : Text} {front rest : List Lexeme} {lexeme : Lexeme}
    (h : scan query = .ok (front ++ lexeme :: rest)) :
    ∃ before spelling behind, query = before ++ (spelling ++ behind) ∧
      before.length = lexeme.position ∧ lexeme.symbol.IsSpelling spelling ∧
      (lexeme.symbol.isLettered = true →
        (∀ c, before.getLast? = some c → isQueryChar c = false) ∧ EndsWord behind) ∧
      Layout.LaysOut (lexeme.position + spelling.length) behind rest := by
  rcases Layout.laysOut_of_spells (spells_of_scanFrom h) with
    ⟨⟨items, trailing, standApart, areBlanks⟩, rfl, hlexemes⟩
  rcases Layout.lexemesFrom_eq_append hlexemes with ⟨before, _ | ⟨item, after⟩, rfl, hrest⟩
  · cases hrest
  · cases hrest
    have hitem := (List.isChain_append.mp standApart).right.left
    rcases List.isChain_cons.mp hitem with ⟨hnext, hafter⟩
    let layout : Layout := ⟨after, trailing, hafter, areBlanks⟩
    refine ⟨before.flatMap Layout.Item.text ++ item.blanks, item.spelling, layout.text, ?_, ?_,
      item.isSpelling, ?_, layout, rfl, ?_⟩
    · simp only [layout, Layout.text, Layout.Item.text, List.flatMap_append, List.flatMap_cons,
        List.append_assoc]
    · rw [List.length_append, Nat.zero_add]
    · intro hletters
      constructor
      · intro c hc
        exact Layout.not_isQueryChar_of_getLast? standApart hletters hc
      · exact (Layout.standsApart_iff hletters layout).mp hnext
    · rw [Layout.Item.text, List.length_append, ← Nat.add_assoc]

/-- Blanks may stand in front of the first lexeme of a text. -/
theorem exists_blanks_of_laysOut {position : Nat} {text : Text} {lexeme : Lexeme}
    {rest : List Lexeme} (h : Layout.LaysOut position text (lexeme :: rest)) :
    ∃ blanks spelling behind, text = blanks ++ (spelling ++ behind) ∧ AreBlanks blanks ∧
      lexeme.symbol.IsSpelling spelling := by
  rcases h with ⟨⟨_ | ⟨item, items⟩, trailing, _, _⟩, rfl, hlexemes⟩
  · cases hlexemes
  · cases hlexemes
    refine ⟨item.blanks, item.spelling, items.flatMap Layout.Item.text ++ trailing, ?_,
      item.areBlanks, item.isSpelling⟩
    simp only [Layout.text, Layout.Item.text, List.flatMap_cons, List.append_assoc]

/-!
## The texts that have lexemes
-/

/--
A query has lexemes exactly if it is laid out in their spellings: blanks, the spelling of the first,
blanks, that of the second, and so on up to blanks at the end.  Every lexeme has the position at
which its spelling begins.
-/
theorem scan_eq_ok_iff (query : Text) (lexemes : List Lexeme) :
    scan query = .ok lexemes ↔
      ∃ layout : Layout, layout.text = query ∧ layout.lexemes = lexemes := by
  constructor
  · intro h
    exact Layout.laysOut_of_spells (spells_of_scanFrom h)
  · rintro ⟨layout, rfl, rfl⟩
    exact scanFrom_of_spells (layout.spells 0)

/-- A keyword in capitals needs no blank between itself and a quotation mark. -/
theorem scan_eq_ok_iff_quoted :
    scan " NOT\"a  b\" ".toList = .ok [⟨.operator .not, 1⟩, ⟨.phrase [['a'], ['b']], 4⟩] := by
  have hword : ∀ c : Char, isQueryChar c = true → IsWord [c] :=
    fun c hc => ⟨List.cons_ne_nil c [], List.forall_mem_singleton.mpr hc⟩
  have hwords : AreSpacedWords [['a'], ['b']] "a  b".toList :=
    ⟨[], _, [], rfl, areBlanks_nil, .more (hword 'a' rfl) (show AreBlanks [' ', ' '] by decide)
      (List.cons_ne_nil _ _) (.only (hword 'b' rfl)), areBlanks_nil⟩
  let negation : Layout.Item := ⟨[' '], .operator .not, "NOT".toList, by decide, .operator rfl⟩
  let phrase : Layout.Item := ⟨[], .phrase _, _, areBlanks_nil, .phrase hwords⟩
  exact (scan_eq_ok_iff _ _).mpr
    ⟨⟨[negation, phrase], [' '], .cons_cons nofun (.singleton _), by decide⟩, rfl, rfl⟩

end Lexeme
end PaperFilter
