import PaperFilter.Document.Decode
import PaperFilter.Failure
import PaperFilter.Text.Encoding
import PaperFilter.Unicode.Blank

/-!
# Documents in lines

A stream holds one document a line; blank lines are passed over.  The first line that is no document
refuses the whole stream.
-/

namespace PaperFilter
namespace Document

def DecodeError.message : DecodeError → Text
  | .malformed => "the record is malformed".toList
  | .mistyped => "a field of the record has the wrong type".toList

/-- The documents of lines of which the first has a number. -/
def readLinesFrom (number : Nat) : List Text → Except Failure (List Document)
  | [] => .ok []
  | line :: rest =>
      if (Unicode.trim line).isEmpty then readLinesFrom (number + 1) rest
      else
        match decode line with
        | .error error => .error (.document number error.message)
        | .ok document => do
            let documents ← readLinesFrom (number + 1) rest
            return document :: documents

def readLines (text : Text) : Except Failure (List Document) :=
  readLinesFrom 1 (Text.lines text)

/-- The documents of a stream of bytes. -/
def readStream (bytes : ByteArray) : Except Failure (List Document) := do
  let (lines, cut) := Text.linesOfBytes bytes
  let documents ← readLinesFrom 1 lines
  if cut then
    throw (.file FileError.notText.message)
  return documents

end Document
end PaperFilter
