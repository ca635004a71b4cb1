import PaperFilter.Front
import PaperFilter.Text.Digits

/-!
# Reading TOML strings

A string stands between single or triple quotation marks.  Between double marks a backslash escapes;
between apostrophes it stands for itself.  A triple form may hold line ends, each of which counts as
one line feed, and a line end right behind its opening is not part of it.
-/

namespace PaperFilter
namespace Toml

/-- A character that may stand in a comment or, unless it is a delimiter, in a string. -/
def isPlain (c : Char) : Bool :=
  c = '\t' || (0x20 ≤ c.toNat && c.toNat != 0x7f)

def isSpace (c : Char) : Bool :=
  c = ' ' || c = '\t'

def isSpaceOrFeed (c : Char) : Bool :=
  isSpace c || c = '\n'

/-- A line feed, alone or behind a carriage return. -/
def readNewline : (text : Text) → Option (Shorter Unit text)
  | '\n' :: _ => some (.head ())
  | '\r' :: '\n' :: _ => some ((Shorter.head ()).cons '\r')
  | _ => none

/-! ## Escapes -/

/-- The character whose code point is written in so many hexadecimal digits. -/
def readCodePoint (width : Nat) (text : Text) : Option (NoLonger Char text) := do
  let found ← Text.readHex 0 width text
  if found.value.isValidChar then some (found.map Char.ofNat) else none

/-- The character of an escape, behind the backslash. -/
def readEscape : (text : Text) → Option (Shorter Char text)
  | 'b' :: _ => some (.head '\x08')
  | 't' :: _ => some (.head '\t')
  | 'n' :: _ => some (.head '\n')
  | 'f' :: _ => some (.head '\x0c')
  | 'r' :: _ => some (.head '\r')
  | '"' :: _ => some (.head '"')
  | '\\' :: _ => some (.head '\\')
  | 'u' :: rest => (readCodePoint 4 rest).map (NoLonger.cons 'u')
  | 'U' :: rest => (readCodePoint 8 rest).map (NoLonger.cons 'U')
  | _ => none

/-! ## One line -/

/-- A string on one line, behind its opening mark; a backslash escapes only if `escapes` is set. -/
def readLine (mark : Char) (escapes : Bool) : (text : Text) → Option (Shorter Text text)
  | [] => none
  | c :: rest =>
      if c = mark then some (.head [])
      else if escapes && c = '\\' then do
        let escaped ← readEscape rest
        let others ← readLine mark escapes escaped.rest
        return ((escaped.andThen others).map (escaped.value :: ·)).cons c
      else if isPlain c then do
        let others ← readLine mark escapes rest
        return (others.map (c :: ·)).cons c
      else none
termination_by text => text.length
decreasing_by
  · exact (escaped.cons c).isShorter
  · exact Nat.lt_succ_self _

/-! ## Several lines -/

/-- White space and line ends, as many as there are. -/
def skipBlankLines : (text : Text) → NoLonger Unit text
  | [] => .nothing ()
  | c :: rest =>
      if isSpaceOrFeed c || (c = '\r' && rest.head? = some '\n') then
        ((skipBlankLines rest).cons c).toNoLonger
      else .nothing ()

/-- A line end behind a backslash, with the white space around it. -/
def readLineJoin (text : Text) : Option (Shorter Unit text) := do
  let space := readWhile isSpace text
  let newline ← readNewline space.rest
  return space.andThen (newline.andMaybe (skipBlankLines newline.rest))

/-- A string between triple quotation marks, behind the opening ones.  One or two marks before other
text belong to the string, and so do up to two in front of the three that close it. -/
def readLines (mark : Char) (escapes : Bool) : (text : Text) → Option (Shorter Text text)
  | [] => none
  | c :: rest =>
      if c = mark then
        let marks := readWhile (· = mark) rest
        if marks.value.length < 2 then do
          let others ← readLines mark escapes marks.rest
          return ((marks.andThen others).map fun others => c :: (marks.value ++ others)).cons c
        else
          let inside := min (marks.value.length - 2) 2
          some ((NoLonger.taking (inside + 2) (List.replicate inside mark)).cons c)
      else if c = '\n' then do
        let others ← readLines mark escapes rest
        return (others.map ('\n' :: ·)).cons c
      else if c = '\r' then
        if rest.head? = some '\n' then do
          let others ← readLines mark escapes rest
          return others.cons c
        else none
      else if escapes && c = '\\' then
        match readLineJoin rest with
        | some join => do
            let others ← readLines mark escapes join.rest
            return (join.andThen others).cons c
        | none => do
            let escaped ← readEscape rest
            let others ← readLines mark escapes escaped.rest
            return ((escaped.andThen others).map (escaped.value :: ·)).cons c
      else if isPlain c then do
        let others ← readLines mark escapes rest
        return (others.map (c :: ·)).cons c
      else none
termination_by text => text.length
decreasing_by
  · exact ((readWhile _ rest).cons c).isShorter
  · exact Nat.lt_succ_self _
  · exact Nat.lt_succ_self _
  · exact (join.cons c).isShorter
  · exact (escaped.cons c).isShorter
  · exact Nat.lt_succ_self _

/-- The line end right behind the opening of a triple form. -/
def skipFirstNewline (text : Text) : NoLonger Unit text :=
  match readNewline text with
  | some newline => newline.toNoLonger
  | none => .nothing ()

/-! ## All forms -/

/-- A string, behind its first quotation mark. -/
def readQuotation (mark : Char) (escapes : Bool) : (text : Text) → Option (Shorter Text text)
  | first :: second :: rest =>
      if first = mark && second = mark then do
        let start := skipFirstNewline rest
        let lines ← readLines mark escapes start.rest
        return ((start.andThen lines).cons second).cons first
      else readLine mark escapes (first :: second :: rest)
  | text => readLine mark escapes text

/-- A string of any form. -/
def readString : (text : Text) → Option (Shorter Text text)
  | '"' :: rest => (readQuotation '"' true rest).map (Shorter.cons '"')
  | '\'' :: rest => (readQuotation '\'' false rest).map (Shorter.cons '\'')
  | _ => none

end Toml
end PaperFilter
