import PaperFilter.Front
import PaperFilter.Query.Error
import PaperFilter.Unicode.Blank

/-!
# Lexemes of a query

A query is a sequence of words, quoted phrases, parentheses and keywords, with blanks between them
where two words would otherwise run together.  A keyword is a whole word in any ASCII letter case;
inside quotation marks it is a word like any other.
-/

namespace PaperFilter

/-! ## The alphabet -/

/-- The scripts that words are written in, besides ASCII letters and digits: Cyrillic; Arabic and
Syriac; Thai; Hangul; Hiragana and Katakana; enclosed letters; Han; halfwidth and fullwidth
forms. -/
def scriptRanges : Unicode.Ranges :=
  [(0x400, 0x4ff), (0x600, 0x7ff), (0xe00, 0xe7f), (0x1100, 0x11ff), (0x3040, 0x30ff),
   (0x3130, 0x318f), (0x3200, 0x32ff), (0x4e00, 0x9fff), (0xa960, 0xa97f), (0xac00, 0xd7ff),
   (0xff00, 0xffef)]

theorem scriptRanges_isIncreasing : scriptRanges.isIncreasing = true := by decide

/-- A character that words of a query are made of. -/
def isQueryChar (c : Char) : Bool :=
  c.isAlphanum || c = '*' || (!Unicode.isBlank c && scriptRanges.contains c.toNat)

/-! ## Lexemes -/

inductive Symbol where
  | word (text : Text)
  | phrase (words : List Text)
  | opening
  | closing
  | operator (keyword : Keyword)
deriving Repr, DecidableEq

namespace Symbol

def keyword? : Symbol → Option Keyword
  | .operator keyword => some keyword
  | _ => none

/-- How messages name a symbol. -/
def describe : Symbol → Text
  | .word text => "word '".toList ++ text ++ "'".toList
  | .phrase words => "phrase \"".toList ++ Text.joinWith [' '] words ++ "\"".toList
  | .opening => "'('".toList
  | .closing => "')'".toList
  | .operator keyword => "'".toList ++ keyword.text ++ "'".toList

/-- The symbol that a whole word spells. -/
def ofWord (word : Text) : Symbol :=
  let lower := word.map Char.toLower
  if lower = Keyword.and.text then .operator .and
  else if lower = Keyword.or.text then .operator .or
  else if lower = Keyword.not.text then .operator .not
  else .word word

end Symbol

/-- A symbol and the number of characters before it. -/
structure Lexeme where
  symbol : Symbol
  position : Nat
deriving Repr, DecidableEq

namespace Lexeme

/-! ## Reading lexemes -/

/-- The words of a phrase up to its closing quotation mark, with the position behind the mark.
`start` is the position of the opening mark. -/
def scanPhrase (start position : Nat) : (text : Text) →
    Except QueryError (Shorter (List Text × Nat) text)
  | [] => .error (.unterminatedQuote start)
  | c :: rest =>
      if c = '"' then
        .ok (.head ([], position + 1))
      else if Unicode.isBlank c then do
        let found ← scanPhrase start (position + 1) rest
        return found.cons c
      else if isQueryChar c then do
        let letters := readWhile isQueryChar rest
        let word := c :: letters.value
        let found ← scanPhrase start (position + word.length) letters.rest
        return (letters.andThen (found.map fun (words, finish) => (word :: words, finish))).cons c
      else
        .error (.unexpectedCharacter c position)
termination_by text => text.length
decreasing_by
  · exact Nat.lt_succ_self _
  · exact ((readWhile isQueryChar rest).cons c).isShorter

/-- The lexemes of a text that stands at a position. -/
def scanFrom (position : Nat) : Text → Except QueryError (List Lexeme)
  | [] => .ok []
  | c :: rest =>
      if Unicode.isBlank c then
        scanFrom (position + 1) rest
      else if c = '(' then do
        let lexemes ← scanFrom (position + 1) rest
        return ⟨.opening, position⟩ :: lexemes
      else if c = ')' then do
        let lexemes ← scanFrom (position + 1) rest
        return ⟨.closing, position⟩ :: lexemes
      else if c = '"' then do
        let phrase ← scanPhrase position (position + 1) rest
        let (words, finish) := phrase.value
        if words.isEmpty then
          throw (.emptyGroup position)
        let lexemes ← scanFrom finish phrase.rest
        return ⟨.phrase words, position⟩ :: lexemes
      else if isQueryChar c then do
        let letters := readWhile isQueryChar rest
        let word := c :: letters.value
        let lexemes ← scanFrom (position + word.length) letters.rest
        return ⟨Symbol.ofWord word, position⟩ :: lexemes
      else
        .error (.unexpectedCharacter c position)
termination_by text => text.length
decreasing_by
  · exact Nat.lt_succ_self _
  · exact Nat.lt_succ_self _
  · exact Nat.lt_succ_self _
  · exact (phrase.cons c).isShorter
  · exact ((readWhile isQueryChar rest).cons c).isShorter

/-- The lexemes of a query, or the first error in it. -/
def scan (query : Text) : Except QueryError (List Lexeme) :=
  scanFrom 0 query

end Lexeme

end PaperFilter
