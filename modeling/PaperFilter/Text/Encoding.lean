import PaperFilter.Text

/-!
# Texts as bytes

Files and streams hold bytes; those that are valid UTF-8 hold a text.  A text is read in lines: a
line ends in a line feed, with a carriage return in front of it or without, and what stands behind
the last line feed is one more line unless it is empty.
-/

namespace PaperFilter
namespace Text

def toBytes (text : Text) : ByteArray :=
  (String.ofList text).toByteArray

def ofBytes? (bytes : ByteArray) : Option Text :=
  bytes.utf8Decode?.map Array.toList

theorem ofBytes?_toBytes (text : Text) : ofBytes? (toBytes text) = some text := by
  simp [ofBytes?, toBytes, String.toByteArray_ofList]

/-! ## Lines -/

def withoutReturn (line : Text) : Text :=
  if line.getLast? = some '\r' then line.dropLast else line

/-- The lines among the parts of a text around its line feeds. -/
def linesOfParts : List Text → List Text
  | [] => []
  | [last] => if last.isEmpty then [] else [last]
  | first :: second :: rest => withoutReturn first :: linesOfParts (second :: rest)

def lines (text : Text) : List Text :=
  linesOfParts (splitOn '\n' text)

/-! ## Lines of bytes -/

/-- The parts of a sequence of bytes in front of its line feeds. -/
def endedParts : List UInt8 → List (List UInt8)
  | [] => []
  | byte :: rest =>
      if byte = 10 then [] :: endedParts rest
      else
        match endedParts rest with
        | [] => []
        | first :: others => (byte :: first) :: others

/-- The texts at the front of a list of byte sequences, up to one that holds no text. -/
def leadingTexts : List (List UInt8) → List Text
  | [] => []
  | part :: rest =>
      match ofBytes? ⟨part.toArray⟩ with
      | some text => text :: leadingTexts rest
      | none => []

/-- The lines of a stream up to the first that is no text, and whether there is such a line. -/
def linesOfBytes (bytes : ByteArray) : List Text × Bool :=
  match ofBytes? bytes with
  | some text => (lines text, false)
  | none => ((leadingTexts (endedParts bytes.toList)).map withoutReturn, true)

end Text
end PaperFilter
