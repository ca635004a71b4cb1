import PaperFilter.Decimal.Shortest
import PaperFilter.Json.Value

/-!
# Writing JSON

Values are written without any white space.  In a string only the quotation mark, the backslash and
the controls below U+0020 are escaped.  A double is written positionally, with at least one digit on
each side of the point, from `0.00001` up to below `10 ^ 16`, and with a signed exponent elsewhere.
-/

namespace PaperFilter
namespace Json

/-! ## Strings -/

def hexDigit (n : Nat) : Char :=
  Nat.digitChar n

def escape (c : Char) : Text :=
  if c = '"' || c = '\\' then ['\\', c]
  else if c = '\x08' then ['\\', 'b']
  else if c = '\x0c' then ['\\', 'f']
  else if c = '\n' then ['\\', 'n']
  else if c = '\r' then ['\\', 'r']
  else if c = '\t' then ['\\', 't']
  else if c.toNat < 0x20 then
    ['\\', 'u', '0', '0', hexDigit (c.toNat / 16), hexDigit (c.toNat % 16)]
  else [c]

def writeStringAppend (text suffix : Text) : Text :=
  '"' :: (text.flatMap escape ++ ('"' :: suffix))

/-! ## Numbers -/

def zeros (n : Nat) : Text :=
  List.replicate n '0'

/-- A decimal with a point. -/
def positional (digits : Text) (point : Int) : Text :=
  if point ≤ 0 then ['0', '.'] ++ zeros (-point).toNat ++ digits
  else if point.toNat < digits.length then
    digits.take point.toNat ++ ['.'] ++ digits.drop point.toNat
  else digits ++ zeros (point.toNat - digits.length) ++ ['.', '0']

def signedExponent (exponent : Int) : Text :=
  if exponent < 0 then '-' :: Text.ofNat exponent.natAbs else '+' :: Text.ofNat exponent.natAbs

/-- A decimal with one digit before the point and an exponent. -/
def scientific (digits : Text) (exponent : Int) : Text :=
  match digits with
  | [] => []
  | [only] => only :: 'e' :: signedExponent exponent
  | first :: others => first :: '.' :: (others ++ ('e' :: signedExponent exponent))

def writeMagnitude (x : Double) : Text :=
  if x.isZero then ['0', '.', '0']
  else
    let decimal := x.shortest
    let digits := Text.ofNat decimal.digits
    let point : Int := digits.length + decimal.exponent
    if -4 ≤ point && point ≤ 16 then positional digits point
    else scientific digits (point - 1)

def writeNumber : Number → Text
  | .integer value => Text.ofInt value
  | .double true magnitude => '-' :: writeMagnitude magnitude
  | .double false magnitude => writeMagnitude magnitude

/-! ## Values -/

mutual

/-- A value in front of a suffix. -/
def writeAppend : Json → Text → Text
  | .null, suffix => ['n', 'u', 'l', 'l'] ++ suffix
  | .bool true, suffix => ['t', 'r', 'u', 'e'] ++ suffix
  | .bool false, suffix => ['f', 'a', 'l', 's', 'e'] ++ suffix
  | .number value, suffix => writeNumber value ++ suffix
  | .string text, suffix => writeStringAppend text suffix
  | .array items, suffix => '[' :: writeItemsAppend items (']' :: suffix)
  | .object members, suffix => '\x7b' :: writeMembersAppend members ('\x7d' :: suffix)

def writeItemsAppend : List Json → Text → Text
  | [], suffix => suffix
  | item :: rest, suffix =>
      writeAppend item (if rest.isEmpty then suffix else ',' :: writeItemsAppend rest suffix)

def writeMembersAppend : List (Text × Json) → Text → Text
  | [], suffix => suffix
  | (key, value) :: rest, suffix =>
      writeStringAppend key
        (':' :: writeAppend value
          (if rest.isEmpty then suffix else ',' :: writeMembersAppend rest suffix))

end

def write (value : Json) : Text :=
  writeAppend value []

end Json
end PaperFilter
