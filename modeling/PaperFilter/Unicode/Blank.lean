import PaperFilter.Unicode.Ranges

/-!
# Blank characters

The blank characters are those with the `White_Space` property.  The information separators U+001C
to U+001F are not among them.
-/

namespace PaperFilter
namespace Unicode

def blankRanges : Ranges :=
  [(0x9, 0xd), (0x20, 0x20), (0x85, 0x85), (0xa0, 0xa0), (0x1680, 0x1680), (0x2000, 0x200a),
   (0x2028, 0x2029), (0x202f, 0x202f), (0x205f, 0x205f), (0x3000, 0x3000)]

def isBlank (c : Char) : Bool :=
  blankRanges.contains c.toNat

/-- A text without the blanks at its two ends. -/
def trim (text : Text) : Text :=
  ((text.dropWhile isBlank).reverse.dropWhile isBlank).reverse

/-- The maximal stretches without a blank, in order. -/
def blankSeparated (text : Text) : List Text :=
  Text.runs (fun c => !isBlank c) text

theorem blankRanges_isIncreasing : blankRanges.isIncreasing = true := by decide

end Unicode
end PaperFilter
