import PaperFilter.Document.Record
import PaperFilter.Json.Reader

/-!
# Reading a document

A document is written as one JSON object.  It is read from left to right and refused at the first
fault: the text is malformed, or it is well formed so far and a value has the wrong type or a title
or an abstract comes a second time.  Text behind the first fault is not looked at.  A field that is
missing is empty; of other fields with one key the last stays.
-/

namespace PaperFilter
namespace Document

inductive DecodeError where
  | malformed
  | mistyped
deriving Repr, DecidableEq

/-- A record takes up one of the levels of nesting. -/
def maxDepth : Nat := 127

def titleKey : Text := "title".toList

def abstractKey : Text := "abstract".toList

/-- What a record has said so far. -/
structure Draft where
  title : Option Text
  abstractText : Option Text
  extra : Json.Members

namespace Draft

def empty : Draft := ⟨none, none, []⟩

def document (draft : Draft) : Document :=
  ⟨draft.title.getD [], draft.abstractText.getD [], draft.extra⟩

end Draft

def orMalformed {α : Type} : Option α → Except DecodeError α
  | some value => .ok value
  | none => .error .malformed

/-- The fault of a value that begins here and is not of the type that is asked for.  An array or an
object is known by its first character; any other value has to be well formed to be mistyped. -/
def wrongType (start : Text) : DecodeError :=
  match start with
  | '[' :: _ => .mistyped
  | '\x7b' :: _ => .mistyped
  | _ => if (Json.readValue 0 start).isSome then .mistyped else .malformed

/-- A string behind white space. -/
def readText (text : Text) : Except DecodeError (Shorter Text text) :=
  match readPast Json.isSpace text with
  | none => .error .malformed
  | some first =>
      if first.value = '"' then do
        let value ← orMalformed (Json.readString first.rest)
        return first.andThen value
      else .error (wrongType (first.value :: first.rest))

/-- The value of a field whose key and colon have been read. -/
def readField (draft : Draft) (key text : Text) : Except DecodeError (Shorter Draft text) := do
  if key = titleKey then
    let found ← readText text
    return found.map fun value => { draft with title := some value }
  else if key = abstractKey then
    let found ← readText text
    return found.map fun value => { draft with abstractText := some value }
  else
    let found ← orMalformed (Json.readValue (maxDepth - 1) text)
    return found.map fun value => { draft with extra := Json.insert key value draft.extra }

/-- A key has been given a value that only one key may have. -/
def isRepeated (draft : Draft) (key : Text) : Bool :=
  (key = titleKey && draft.title.isSome) || (key = abstractKey && draft.abstractText.isSome)

/-- One or more fields and the closing brace. -/
def readFields (draft : Draft) (text : Text) : Except DecodeError (Shorter Draft text) := do
  let mark ← orMalformed (readThisPast Json.isSpace '"' text)
  let key ← orMalformed (Json.readString mark.rest)
  if isRepeated draft key.value then
    throw .mistyped
  let colon ← orMalformed (readThisPast Json.isSpace ':' key.rest)
  let field ← readField draft key.value colon.rest
  let next ← orMalformed (readPast Json.isSpace field.rest)
  let read := mark.andThen (key.andThen (colon.andThen (field.andThen next)))
  match next.value with
  | ',' => do
      let others ← readFields field.value next.rest
      return read.andThen others
  | '\x7d' => return read.map fun _ => field.value
  | _ => throw .malformed
termination_by text.length
decreasing_by
  · exact (mark.andThen (key.andThen (colon.andThen (field.andThen next)))).isShorter

/-- The fields of a record behind its opening brace. -/
def readRecord (text : Text) : Except DecodeError (Shorter Draft text) := do
  let first ← orMalformed (readPast Json.isSpace text)
  if first.value = '\x7d' then return first.map fun _ => .empty else readFields .empty text

/-- The document that a text is the record of. -/
def decode (text : Text) : Except DecodeError Document :=
  match text.dropWhile Json.isSpace with
  | '\x7b' :: rest => do
      let record ← readRecord rest
      if record.rest.all Json.isSpace then return record.value.document else throw .malformed
  | start => .error (wrongType start)

end Document
end PaperFilter
