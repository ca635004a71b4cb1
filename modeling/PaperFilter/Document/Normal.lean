import PaperFilter.Unicode.Blank
import PaperFilter.Unicode.Lowercase
import PaperFilter.Unicode.WordChar

/-!
# Normal forms of titles and abstracts

A query does not see a title or an abstract as it was written but in a normal form: in lowercase,
and with punctuation taken out.  In a title every run of non-word characters becomes one space.  In
an abstract only the runs that lead to a hyphen are taken out, from their start through their last
hyphen, and the white space that is left is evened out to single spaces.
-/

namespace PaperFilter
namespace Normal

def isNonWord (c : Char) : Bool :=
  !Unicode.isWordChar c

/-- A title in normal form.  A run of non-word characters at either end leaves a space there. -/
def ofTitle (text : Text) : Text :=
  Unicode.lowercase (Text.mapRuns isNonWord (fun _ => [' ']) text)

/-- The part of a text behind its last hyphen. -/
def behindLastHyphen (text : Text) : Text :=
  (text.reverse.takeWhile (· != '-')).reverse

/-- A run of non-word characters, with one space for all of it through its last hyphen.  A run whose
only hyphen is its first character is kept. -/
def withoutHyphens : Text → Text
  | [] => []
  | first :: others =>
      if others.contains '-' then ' ' :: behindLastHyphen others else first :: others

/-- An abstract in normal form. -/
def ofAbstract (text : Text) : Text :=
  Text.joinWith [' ']
    (Unicode.blankSeparated (Unicode.lowercase (Text.mapRuns isNonWord withoutHyphens text)))

end Normal
end PaperFilter
