import PaperFilter.Front
import PaperFilter.Text

/-!
# Numbers in digits

A number is written in the digits of a base, the most significant first.  The digits above nine are
letters and are read in either case.
-/

namespace PaperFilter
namespace Text

def isHexDigit (c : Char) : Bool :=
  c.isDigit || ('a' ≤ c && c ≤ 'f') || ('A' ≤ c && c ≤ 'F')

def digitValue (c : Char) : Nat :=
  if c.isDigit then c.toNat - '0'.toNat
  else if c.isUpper then c.toNat - 'A'.toNat + 10
  else c.toNat - 'a'.toNat + 10

def hexValue? (c : Char) : Option Nat :=
  if isHexDigit c then some (digitValue c) else none

/-- The number that digits in a base stand for. -/
def natural (base : Nat) (digits : Text) : Nat :=
  digits.foldl (fun n c => n * base + digitValue c) 0

/-- Hexadecimal digits, as many as asked for, behind a number that was read before them. -/
def readHex (n : Nat) : (width : Nat) → (text : Text) → Option (NoLonger Nat text)
  | 0, _ => some (.nothing n)
  | _ + 1, [] => none
  | width + 1, c :: rest => do
      let digit ← hexValue? c
      let found ← readHex (n * 16 + digit) width rest
      return (found.cons c).toNoLonger

end Text
end PaperFilter
