import PaperFilter.Text

/-!
# Wildcard words

A word of a query is matched against one token in a way that its stars decide.  Without a star the
token is the word; a lone leading or trailing star asks for an ending or a beginning; in every other
case the pieces between the stars occur in the token in order, each two with at least one character
and no line feed between them, and anything may stand before the first and after the last.
-/

namespace PaperFilter

inductive Wildcard where
  | exact (word : Text)
  | endsWith (ending : Text)
  | startsWith (beginning : Text)
  | pattern (pieces : List Text)
deriving Repr, DecidableEq

namespace Wildcard

def ofPieces : List Text → Wildcard
  | [word] => .exact word
  | [[], ending] => .endsWith ending
  | [beginning, []] => .startsWith beginning
  | pieces => .pattern pieces

def ofWord (word : Text) : Wildcard :=
  ofPieces (Text.splitOn '*' word)

/-! ## Matching -/

/-- For each suffix of a text, whether one or more characters that are no line feed lead from it to
a suffix that fits.  `fits` tells of each suffix, in the same order, whether it fits; what it leaves
out does not fit. -/
def afterGap : Text → List Bool → List Bool
  | [], _ => [false]
  | c :: rest, fits =>
      let later := afterGap rest fits.tail
      (c != '\n' && (fits.tail.headD false || later.headD false)) :: later

/-- For each suffix of a text, whether the pieces begin there. -/
def fitting : List Text → Text → List Bool
  | [], text => (Text.suffixes text).map fun _ => true
  | [last], text => (Text.suffixes text).map last.isPrefixOf
  | piece :: second :: more, text =>
      let gaps := afterGap text (fitting (second :: more) text)
      List.zipWith (fun suffix gap => piece.isPrefixOf suffix && gap)
        (Text.suffixes text) (gaps.drop piece.length)

def matchesToken : Wildcard → Text → Bool
  | .exact word, token => token == word
  | .endsWith ending, token => ending.isSuffixOf token
  | .startsWith beginning, token => beginning.isPrefixOf token
  | .pattern pieces, token => (fitting pieces token).any id

def matchesAny (wildcard : Wildcard) (tokens : List Text) : Bool :=
  tokens.any wildcard.matchesToken

/-! ## The pattern as a regular expression -/

/-- The characters that stand for themselves only behind a backslash. -/
def metacharacters : List Char :=
  ['\\', '.', '+', '*', '?', '(', ')', '|', '[', ']', '\x7b', '\x7d', '^', '$', '#', '&', '-', '~']

def escapePiece (piece : Text) : Text :=
  piece.flatMap fun c => if metacharacters.contains c then ['\\', c] else [c]

/-- The pieces, escaped, with `.+` between each two. -/
def expression (pieces : List Text) : Text :=
  Text.joinWith ['.', '+'] (pieces.map escapePiece)

end Wildcard

/-! ## Compiling -/

/-- What makes a matcher of a regular expression, unless it refuses the expression for a reason. -/
class PatternCompiler where
  refusal? : Text → Option Text

/-- Why a wildcard is refused, if it is.  Only a pattern is compiled. -/
def Wildcard.refusal? [PatternCompiler] : Wildcard → Option Text
  | .exact _ => none
  | .endsWith _ => none
  | .startsWith _ => none
  | .pattern pieces => PatternCompiler.refusal? (expression pieces)

end PaperFilter
