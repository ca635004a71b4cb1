import PaperFilter.Document.Lines
import PaperFilter.Proofs.Document.Decoding
import PaperFilter.Proofs.Json.Controls
import PaperFilter.Proofs.Token
import PaperFilter.Proofs.Unicode.Blank

/-!
# Documents in lines are read back

A stream is written line by line: each line is a record or blank, and ends in a line feed with a
carriage return in front of it or without.  A record is written without controls, so that neither of
the two occurs in it, and reading the stream finds the same lines.
-/

namespace PaperFilter

/-!
## Lines of a text
-/

/-- How a line ends. -/
inductive LineEnd where
  | feed
  | returnFeed
deriving Repr, DecidableEq

namespace LineEnd

/-- What stands in front of the line feed. -/
def mark : LineEnd → Text
  | .feed => []
  | .returnFeed => ['\r']

def text (lineEnd : LineEnd) : Text :=
  lineEnd.mark ++ ['\n']

theorem feed_notMem_mark (lineEnd : LineEnd) : '\n' ∉ lineEnd.mark := by
  cases lineEnd <;> decide

theorem areBlanks_mark (lineEnd : LineEnd) : AreBlanks lineEnd.mark := by
  cases lineEnd <;> decide

end LineEnd

namespace Text

theorem splitOn_append_cons {separator : Char} {part : Text} (h : separator ∉ part) (rest : Text) :
    splitOn separator (part ++ separator :: rest) = part :: splitOn separator rest := by
  induction part with
  | nil => rw [List.nil_append, splitOn, if_pos rfl]
  | cons c part ih =>
      rw [List.mem_cons, not_or] at h
      rcases h with ⟨hc, hpart⟩
      rw [List.cons_append, splitOn, if_neg (Ne.symm hc), ih hpart]
      rfl

theorem lines_append_feed {part : Text} (h : '\n' ∉ part) (rest : Text) :
    lines (part ++ '\n' :: rest) = withoutReturn part :: lines rest := by
  rw [lines, lines, splitOn_append_cons h]
  cases hrest : splitOn '\n' rest with
  | nil => exact absurd hrest (splitOn_ne_nil '\n' rest)
  | cons first others => rw [linesOfParts]

theorem lines_append_lineEnd {line : Text} (h : '\n' ∉ line) (lineEnd : LineEnd) (rest : Text) :
    lines (line ++ (lineEnd.text ++ rest)) =
      withoutReturn (line ++ lineEnd.mark) :: lines rest := by
  have hline : '\n' ∉ line ++ lineEnd.mark := List.not_mem_append h lineEnd.feed_notMem_mark
  rw [← lines_append_feed hline, LineEnd.text, List.append_assoc, List.append_assoc,
    List.singleton_append]

/-- What stands behind the last line feed is a line unless it is empty. -/
theorem lines_of_notMem {line : Text} (h : '\n' ∉ line) :
    lines line = if line.isEmpty then [] else [line] := by
  rw [lines, splitOn_of_not_mem h, linesOfParts]

theorem withoutReturn_append_mark {line : Text} (h : '\r' ∉ line) (lineEnd : LineEnd) :
    withoutReturn (line ++ lineEnd.mark) = line := by
  cases lineEnd with
  | feed =>
      rw [LineEnd.mark, List.append_nil, withoutReturn, if_neg]
      intro hlast
      exact h (List.mem_of_getLast? hlast)
  | returnFeed =>
      rw [LineEnd.mark, withoutReturn, if_pos List.getLast?_concat, List.dropLast_concat]

theorem areBlanks_withoutReturn {line : Text} (h : AreBlanks line) :
    AreBlanks (withoutReturn line) := by
  unfold withoutReturn
  split
  · exact fun c hc => h c (List.dropLast_subset line hc)
  · exact h

end Text

namespace Json

/-- Every number in the value is an integer. -/
def IsIntegral (value : Json) : Prop :=
  ∀ number ∈ value.numbers, ∃ n, number = .integer n

theorem IsIntegral.doublesReadBack {value : Json} (h : value.IsIntegral) :
    value.DoublesReadBack := by
  intro negative magnitude hdouble
  rcases h _ hdouble with ⟨n, hinteger⟩
  cases hinteger

end Json

namespace Document

/-!
## Streams
-/

/-- A line of a stream: blanks that are passed over, or a record. -/
inductive Line where
  | blank (blanks : Text) (areBlanks : AreBlanks blanks) (isLine : '\n' ∉ blanks)
  | record (document : Document)

namespace Line

def text : Line → Text
  | .blank blanks _ _ => blanks
  | .record document => document.encode

def documents : Line → List Document
  | .blank _ _ _ => []
  | .record document => [document]

end Line

/-- The lines of a stream.  The last, which may be empty, has no end of its own. -/
inductive Stream where
  | last (line : Line)
  | more (line : Line) (lineEnd : LineEnd) (rest : Stream)

namespace Stream

def text : Stream → Text
  | .last line => line.text
  | .more line lineEnd rest => line.text ++ (lineEnd.text ++ rest.text)

def documents : Stream → List Document
  | .last line => line.documents
  | .more line _ rest => line.documents ++ rest.documents

end Stream

/-!
## Reading lines
-/

theorem hasNoControls_encode (document : Document) : Json.HasNoControls document.encode :=
  Json.hasNoControls_write document.toJson

theorem Line.feed_notMem_text (line : Line) : '\n' ∉ line.text := by
  cases line with
  | blank blanks areBlanks isLine => exact isLine
  | record document => exact document.hasNoControls_encode.notMem (by decide)

/-- The document on a line that is not blank. -/
def ofLine? (line : Text) : Option Document :=
  if AreBlanks line then none else (decode line).toOption

/-- A line that is passed over or read. -/
def IsReadable (line : Text) : Prop :=
  AreBlanks line ∨ ∃ document, decode line = .ok document

theorem not_isEmpty_trim {line : Text} (h : ¬ AreBlanks line) :
    ¬ (Unicode.trim line).isEmpty = true :=
  fun hempty => h (Unicode.trim_eq_nil_iff.mp (List.isEmpty_iff.mp hempty))

theorem readLinesFrom_blank {line : Text} (h : AreBlanks line) (number : Nat)
    (rest : List Text) :
    readLinesFrom number (line :: rest) = readLinesFrom (number + 1) rest := by
  rw [readLinesFrom, Unicode.trim_eq_nil_iff.mpr h]
  rfl

/-- In front of other lines, a readable line counts and leaves its document, if it has one. -/
theorem readLinesFrom_readable {line : Text} (h : IsReadable line) (number : Nat)
    (rest : List Text) :
    readLinesFrom number (line :: rest) =
      (readLinesFrom (number + 1) rest).map ((ofLine? line).toList ++ ·) := by
  by_cases hblank : AreBlanks line
  · rw [readLinesFrom_blank hblank, ofLine?, if_pos hblank]
    cases readLinesFrom (number + 1) rest <;> rfl
  · rcases h with hcontra | ⟨document, hdocument⟩
    · exact absurd hcontra hblank
    · rw [readLinesFrom, if_neg (not_isEmpty_trim hblank), hdocument, ofLine?, if_neg hblank,
        hdocument]
      cases readLinesFrom (number + 1) rest <;> rfl

section

variable {document : Document}

/-- A record begins with a brace, so that its line is not passed over. -/
theorem not_areBlanks_encode (document : Document) : ¬ AreBlanks document.encode := by
  intro hblank
  have hbrace : '\x7b' ∈ document.encode := List.mem_cons_self
  have hblank := hblank '\x7b' hbrace
  revert hblank
  decide

theorem ofLine?_encode (h : decode document.encode = .ok document) :
    ofLine? document.encode = some document := by
  rw [ofLine?, if_neg document.not_areBlanks_encode, h]
  rfl

theorem readLinesFrom_record (h : decode document.encode = .ok document) (number : Nat)
    (rest : List Text) :
    readLinesFrom number (document.encode :: rest) =
      (readLinesFrom (number + 1) rest).map (document :: ·) := by
  rw [readLinesFrom_readable (Or.inr ⟨document, h⟩), ofLine?_encode h]
  rfl

end

variable {line : Line}

/-- A line that ends is read as its documents, whichever way it ends. -/
theorem readLinesFrom_line (h : ∀ document ∈ line.documents, decode document.encode = .ok document)
    (lineEnd : LineEnd) (number : Nat) (rest : List Text) :
    readLinesFrom number (Text.withoutReturn (line.text ++ lineEnd.mark) :: rest) =
      (readLinesFrom (number + 1) rest).map (line.documents ++ ·) := by
  cases line with
  | blank blanks areBlanks isLine =>
      have hblanks : AreBlanks (blanks ++ lineEnd.mark) :=
        List.forall_mem_append.mpr ⟨areBlanks, lineEnd.areBlanks_mark⟩
      rw [Line.text, readLinesFrom_blank (Text.areBlanks_withoutReturn hblanks)]
      cases readLinesFrom (number + 1) rest <;> rfl
  | record document =>
      have hreturn : '\r' ∉ document.encode := document.hasNoControls_encode.notMem (by decide)
      rw [Line.text, Text.withoutReturn_append_mark hreturn,
        readLinesFrom_record (h document List.mem_cons_self)]
      rfl

/-- The last line, which has no end. -/
theorem readLinesFrom_last (h : ∀ document ∈ line.documents, decode document.encode = .ok document)
    (number : Nat) : readLinesFrom number (Text.lines line.text) = .ok line.documents := by
  rw [Text.lines_of_notMem line.feed_notMem_text]
  cases line with
  | blank blanks areBlanks isLine =>
      split
      · rfl
      · rw [Line.text, readLinesFrom_blank areBlanks]
        rfl
  | record document =>
      have hencode : document.encode.isEmpty = false := rfl
      rw [Line.text, hencode, if_neg Bool.false_ne_true,
        readLinesFrom_record (h document List.mem_cons_self)]
      rfl

/-- Each document of a stream is read if it is read on its own. -/
theorem readLinesFrom_stream {stream : Stream}
    (h : ∀ document ∈ stream.documents, decode document.encode = .ok document) (number : Nat) :
    readLinesFrom number (Text.lines stream.text) = .ok stream.documents := by
  induction stream generalizing number with
  | last line => exact readLinesFrom_last h number
  | more line lineEnd rest ih =>
      rcases List.forall_mem_append.mp h with ⟨hline, hrest⟩
      rw [Stream.text, Text.lines_append_lineEnd line.feed_notMem_text,
        readLinesFrom_line hline, ih hrest]
      rfl

theorem readStream_of_text {bytes : ByteArray} {text : Text}
    (h : Text.ofBytes? bytes = some text) : readStream bytes = readLines text := by
  rw [readStream, Text.linesOfBytes, h, readLines]
  dsimp only
  cases readLinesFrom 1 (Text.lines text) <;> rfl

theorem readStream_toBytes (text : Text) : readStream (Text.toBytes text) = readLines text :=
  readStream_of_text (Text.ofBytes?_toBytes text)

/-!
## Documents with integers
-/

/-- A document that is read back: its other fields are as reading leaves fields, and their numbers
are integers. -/
structure IsIntegral (document : Document) : Prop where
  areOtherFields : AreOtherFields document.extra
  isIntegral : ∀ member ∈ document.extra, member.2.IsIntegral

theorem IsIntegral.decode_encode {document : Document} (h : document.IsIntegral) :
    decode document.encode = .ok document :=
  Document.decode_encode h.areOtherFields fun member hmember =>
    (h.isIntegral member hmember).doublesReadBack

/--
Documents in lines are read back in order, however the lines end and however many blank lines stand
between them.
-/
theorem readStream_stream (stream : Stream)
    (h : ∀ document ∈ stream.documents, document.IsIntegral) :
    readStream (Text.toBytes stream.text) = .ok stream.documents := by
  rw [readStream_toBytes]
  exact readLinesFrom_stream (fun document hdocument => (h document hdocument).decode_encode) 1

/-- A title of two lines, and the largest and the least integer. -/
def countedDocument : Document :=
  ⟨"two\r\nlines".toList, [], [("counts".toList,
    .array [.number (.integer 18446744073709551615),
      .object [("least".toList, .number (.integer (-9223372036854775808)))]])]⟩

theorem isIntegral_countedDocument : countedDocument.IsIntegral where
  areOtherFields := {
    isIncreasing := by decide
    isOtherKey := by decide
    fits := by
      intro member hmember
      cases List.mem_singleton.mp hmember
      apply Json.Fits.array
      intro item hitem
      rcases List.mem_pair.mp hitem with rfl | rfl
      · exact .number _ ⟨by decide, by decide⟩
      · apply Json.Fits.object (by decide)
        intro inner hinner
        cases List.mem_singleton.mp hinner
        exact .number _ ⟨by decide, by decide⟩ }
  isIntegral := by
    intro member hmember number hnumber
    cases List.mem_singleton.mp hmember
    rcases List.mem_pair.mp hnumber with rfl | rfl
    · exact ⟨_, rfl⟩
    · exact ⟨_, rfl⟩

/-- Two records with a blank line in front of each, and no line end behind the second. -/
def countedStream : Stream :=
  .more (.blank ['\t', '\u2028'] (by decide) (by decide)) .returnFeed
    (.more (.record countedDocument) .returnFeed
      (.more (.blank [' '] (by decide) (by decide)) .feed (.last (.record ⟨[], [], []⟩))))

theorem readStream_stream_counted :
    countedStream.text = ("\t\u2028\r\n" ++
      "\x7b\"title\":\"two\\r\\nlines\",\"abstract\":\"\",\"counts\":" ++
      "[18446744073709551615,\x7b\"least\":-9223372036854775808\x7d]\x7d\r\n \n" ++
      "\x7b\"title\":\"\",\"abstract\":\"\"\x7d").toList ∧
    readStream (Text.toBytes countedStream.text) = .ok [countedDocument, ⟨[], [], []⟩] := by
  have hempty : IsIntegral ⟨[], [], []⟩ := ⟨areOtherFields_nil, List.forall_mem_nil _⟩
  constructor
  · decide +kernel
  · exact readStream_stream countedStream
      (List.forall_mem_cons.mpr ⟨isIntegral_countedDocument, List.forall_mem_singleton.mpr hempty⟩)

end Document
end PaperFilter
