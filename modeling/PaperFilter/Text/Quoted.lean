import PaperFilter.Unicode.Printable

/-!
# Quoted text

Messages show a character or a text between quotation marks.  The mark and the backslash are
escaped by a backslash, the common controls by a letter, and every other character that is not
visible by its code point in hexadecimal.
-/

namespace PaperFilter
namespace Text

/-- A code point in hexadecimal between braces. -/
def codePointEscape (c : Char) : Text :=
  ['\\', 'u', '\x7b'] ++ Nat.toDigits 16 c.toNat ++ ['\x7d']

def escapeBetween (mark c : Char) : Text :=
  if c = '\x00' then ['\\', '0']
  else if c = '\t' then ['\\', 't']
  else if c = '\r' then ['\\', 'r']
  else if c = '\n' then ['\\', 'n']
  else if c = '\\' || c = mark then ['\\', c]
  else if Unicode.isVisible c then [c]
  else codePointEscape c

/-- A text between double quotation marks. -/
def quoted (text : Text) : Text :=
  '"' :: (text.flatMap (escapeBetween '"') ++ ['"'])

/-- A character between single quotation marks. -/
def quotedChar (c : Char) : Text :=
  '\'' :: (escapeBetween '\'' c ++ ['\''])

end Text
end PaperFilter
