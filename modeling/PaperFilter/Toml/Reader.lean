import PaperFilter.Toml.Scalar
import PaperFilter.Toml.StringReader

/-!
# Reading TOML documents

A document is a sequence of lines, each of them blank, a comment, a header or an assignment.  The
text is cut into statements first; whether the statements fit together is decided when they are
assembled.
-/

namespace PaperFilter
namespace Toml

/-- The nesting of arrays and inline tables, and the length of a key path, stay below this. -/
def nestingLimit : Nat := 80

/-! ## Keys -/

def isBareKeyChar (c : Char) : Bool :=
  c.isAlphanum || c = '-' || c = '_'

/-- A key without dots: bare, or a string on one line. -/
def readSimpleKey : (text : Text) → Option (Shorter Text text)
  | [] => none
  | c :: rest =>
      if c = '"' then (readLine '"' true rest).map (Shorter.cons c)
      else if c = '\'' then (readLine '\'' false rest).map (Shorter.cons c)
      else if isBareKeyChar c then some (((readWhile isBareKeyChar rest).map (c :: ·)).cons c)
      else none

/-- Keys with dots between them, and white space around each. -/
def readKeys (text : Text) : Option (Shorter KeyPath text) := do
  let start := readWhile isSpace text
  let key ← readSimpleKey start.rest
  match readThisPast isSpace '.' key.rest with
  | some dot =>
      let path ← readKeys dot.rest
      return (start.andThen (key.andThen (dot.andThen path))).map fun path =>
        ⟨key.value :: path.parents, path.last⟩
  | none =>
      let finish := readWhile isSpace key.rest
      return (start.andThen (key.andMaybe finish)).map fun _ => ⟨[], key.value⟩
termination_by text.length
decreasing_by
  · exact ((readWhile isSpace text).andThen (key.andThen dot)).isShorter

def readKeyPath (text : Text) : Option (Shorter KeyPath text) := do
  let path ← readKeys text
  if path.value.parents.length + 1 < nestingLimit then some path else none

/-- A key path, the equals sign behind it, and white space. -/
def readAssigned (text : Text) : Option (Shorter KeyPath text) := do
  let path ← readKeyPath text
  let equals ← readThis '=' path.rest
  let space := readWhile isSpace equals.rest
  return (path.andThen (equals.andMaybe space)).map fun _ => path.value

/-! ## Scalars -/

def isScalarChar (c : Char) : Bool :=
  c.isAlphanum || c = '+' || c = '-' || c = '_' || c = '.' || c = ':'

/-- A time that one space parts from a date. -/
def readSpacedTime : (text : Text) → Option (Shorter Text text)
  | ' ' :: c :: rest =>
      if c.isDigit then
        let others := readWhile isScalarChar rest
        some (((others.map fun others => ' ' :: c :: others).cons c).cons ' ')
      else none
  | _ => none

/-- A scalar without quotation marks. -/
def readScalar : (text : Text) → Option (Shorter Toml text)
  | [] => none
  | c :: rest =>
      let others := readWhile isScalarChar rest
      let word := c :: others.value
      match if Scalar.isDate word then readSpacedTime others.rest else none with
      | some time => do
          let value ← Scalar.value? (word ++ time.value)
          return ((others.andThen time).map fun _ => value).cons c
      | none => do
          let value ← Scalar.value? word
          return (others.map fun _ => value).cons c

/-! ## Values -/

/-- White space, comments and line ends inside an array. -/
def skipFiller : (text : Text) → NoLonger Unit text
  | [] => .nothing ()
  | c :: rest =>
      if isSpaceOrFeed c || (c = '\r' && rest.head? = some '\n') then
        ((skipFiller rest).cons c).toNoLonger
      else if c = '#' then
        let comment := readWhile isPlain rest
        ((comment.andMaybe (skipFiller comment.rest)).cons c).toNoLonger
      else .nothing ()
termination_by text => text.length
decreasing_by
  · exact Nat.lt_succ_self _
  · exact ((readWhile isPlain rest).cons c).isShorter

mutual

/-- A value, with fewer than `depth` arrays and inline tables inside each other. -/
def readValue (depth : Nat) (text : Text) : Option (Shorter Toml text) :=
  match text with
  | '"' :: rest => (readString ('"' :: rest)).map (Shorter.map .string)
  | '\'' :: rest => (readString ('\'' :: rest)).map (Shorter.map .string)
  | '[' :: rest =>
      match depth with
      | 0 | 1 => none
      | depth + 2 => do
          let items ← readArray (depth + 1) rest
          return (items.map array).cons '['
  | '\x7b' :: rest =>
      match depth with
      | 0 | 1 => none
      | depth + 2 => do
          let assignments ← readInlineTable (depth + 1) rest
          let value ← inlineTable assignments.value
          return (assignments.map fun _ => value).cons '\x7b'
  | text => readScalar text
termination_by (text.length, 0)
decreasing_by
  · exact .left _ _ (Nat.lt_succ_self _)
  · exact .left _ _ (Nat.lt_succ_self _)

/-- The items of an array, behind its opening bracket; a comma may stand behind the last. -/
def readArray (depth : Nat) (text : Text) : Option (Shorter (List Toml) text) := do
  let start := skipFiller text
  let first ← start.next?
  if first.value = ']' then
    return first.map fun _ => []
  let item ← readValue depth start.rest
  let mark ← (skipFiller item.rest).next?
  match mark.value with
  | ',' =>
      let others ← readArray depth mark.rest
      return (start.andThen (item.andThen (mark.andThen others))).map (item.value :: ·)
  | ']' => return (start.andThen (item.andThen mark)).map fun _ => [item.value]
  | _ => none
termination_by (text.length, 1)
decreasing_by
  · exact Prod.Lex.right' _ (skipFiller text).isNoLonger (Nat.lt_succ_self _)
  · exact .left _ _ ((skipFiller text).andThen (item.andThen mark)).isShorter

/-- The assignments of an inline table, behind its opening brace. -/
def readInlineTable (depth : Nat) (text : Text) :
    Option (Shorter (List (KeyPath × Toml)) text) := do
  let first ← readPast isSpace text
  if first.value = '\x7d' then return first.map fun _ => [] else readAssignments depth text
termination_by (text.length, 2)
decreasing_by
  · exact .right _ (Nat.lt_succ_self _)

/-- One or more assignments and the closing brace; no comma may stand behind the last. -/
def readAssignments (depth : Nat) (text : Text) :
    Option (Shorter (List (KeyPath × Toml)) text) := do
  let path ← readAssigned text
  let value ← readValue depth path.rest
  let mark ← readPast isSpace value.rest
  let assignment := (path.value, value.value)
  match mark.value with
  | ',' =>
      let others ← readAssignments depth mark.rest
      return (path.andThen (value.andThen (mark.andThen others))).map (assignment :: ·)
  | '\x7d' => return (path.andThen (value.andThen mark)).map fun _ => [assignment]
  | _ => none
termination_by (text.length, 1)
decreasing_by
  · exact .left _ _ path.isShorter
  · exact .left _ _ (path.andThen (value.andThen mark)).isShorter

end

/-! ## Lines -/

/-- The end of a line, or of the text. -/
def readBreak : (text : Text) → Option (NoLonger Unit text)
  | [] => some (.nothing ())
  | text => (readNewline text).map Shorter.toNoLonger

/-- What is left of a comment behind its number sign, and the end of the line. -/
def readComment (text : Text) : Option (NoLonger Unit text) := do
  let comment := readWhile isPlain text
  return comment.andMaybe (← readBreak comment.rest)

/-- White space, a comment and the end of the line, where they are all that is left of it. -/
def readLineEnd (text : Text) : Option (NoLonger Unit text) :=
  match readThisPast isSpace '#' text with
  | some mark => do
      let comment ← readComment mark.rest
      return (mark.andMaybe comment).toNoLonger
  | none => do
      let space := readWhile isSpace text
      return space.andMaybe (← readBreak space.rest)

/-- The key path of a header up to its closing bracket. -/
def readTableHeader (text : Text) : Option (Shorter Statement text) := do
  let path ← readKeyPath text
  let bracket ← readThis ']' path.rest
  return (path.andThen bracket).map fun _ => .openTable path.value

/-- The key path of a header up to its two closing brackets. -/
def readArrayHeader (text : Text) : Option (Shorter Statement text) := do
  let path ← readKeyPath text
  let inner ← readThis ']' path.rest
  let outer ← readThis ']' inner.rest
  return (path.andThen (inner.andThen outer)).map fun _ => .appendTable path.value

def readAssignment (text : Text) : Option (Shorter Statement text) := do
  let path ← readAssigned text
  let value ← readValue nestingLimit path.rest
  return (path.andThen value).map (.assign path.value)

/-- A statement, without the end of its line. -/
def readStatement : (text : Text) → Option (Shorter Statement text)
  | '[' :: '[' :: rest => (readArrayHeader rest).map fun header => (header.cons '[').cons '['
  | '[' :: rest => (readTableHeader rest).map (Shorter.cons '[')
  | text => readAssignment text

/-- The statements of a text, line by line. -/
def readStatements (text : Text) : Option (List Statement) :=
  let start := readWhile isSpace text
  match start.next? with
  | none => some []
  | some first =>
      if first.value = '#' then do
        let comment ← readComment first.rest
        readStatements comment.rest
      else
        match readNewline start.rest with
        | some newline => readStatements newline.rest
        | none => do
            let statement ← readStatement start.rest
            let finish ← readLineEnd statement.rest
            let others ← readStatements finish.rest
            return statement.value :: others
termination_by text.length
decreasing_by
  · exact (first.andMaybe comment).isShorter
  · exact ((readWhile isSpace text).andThen newline).isShorter
  · exact ((readWhile isSpace text).andThen (statement.andMaybe finish)).isShorter

/-- A document may begin with a byte order mark. -/
def withoutMark : Text → Text
  | '\ufeff' :: rest => rest
  | text => text

/-- The members of the table that a document describes. -/
def read? (text : Text) : Option Members := do
  let statements ← readStatements (withoutMark text)
  assemble statements

end Toml
end PaperFilter
