import PaperFilter.Unicode.Blank

/-!
# Tokens of a text

A text is cut into chunks at its maximal runs of delimiters: blanks, information separators and
ASCII punctuation other than `*`, `#`, `@` and `.`.  A run at either end of the text leaves an empty
chunk there.  A chunk with dots is cut further at every dot, unless it is a hashtag or a mention.
-/

namespace PaperFilter
namespace Token

def isAsciiPunctuation (c : Char) : Bool :=
  (33 ≤ c.toNat && c.toNat ≤ 47) || (58 ≤ c.toNat && c.toNat ≤ 64) ||
    (91 ≤ c.toNat && c.toNat ≤ 96) || (123 ≤ c.toNat && c.toNat ≤ 126)

def isInformationSeparator (c : Char) : Bool :=
  0x1c ≤ c.toNat && c.toNat ≤ 0x1f

/-- Punctuation that may stand inside a token or a chunk. -/
def isKept (c : Char) : Bool :=
  c = '*' || c = '#' || c = '@' || c = '.'

def isDelimiter (c : Char) : Bool :=
  Unicode.isBlank c || isInformationSeparator c || (isAsciiPunctuation c && !isKept c)

/-- The parts of a text around its maximal runs of delimiters. -/
def chunks : Text → List Text
  | [] => [[]]
  | c :: rest =>
      if isDelimiter c then
        if rest.head?.any isDelimiter then chunks rest
        else [] :: chunks rest
      else Text.consHead c (chunks rest)

/-- Hashtags and mentions keep their dots. -/
def keepsDots (chunk : Text) : Bool :=
  chunk.head? = some '#' || chunk.head? = some '@'

def ofChunk (chunk : Text) : List Text :=
  if chunk.contains '.' && !keepsDots chunk then Text.splitOn '.' chunk else [chunk]

end Token

/-- The tokens of a text, in order and with repetitions.  Empty tokens are kept. -/
def tokenize (text : Text) : List Text :=
  if text.isEmpty then [] else (Token.chunks text).flatMap Token.ofChunk

end PaperFilter
