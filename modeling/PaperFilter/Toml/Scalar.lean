import PaperFilter.Decimal.Double
import PaperFilter.Text.Digits
import PaperFilter.Toml.Value

/-!
# TOML scalars

A scalar without quotation marks is known as a whole: a boolean, an integer, a float, or a date, a
time or both.  Of floats, dates and times only their form matters here.
-/

namespace PaperFilter
namespace Toml
namespace Scalar

/-! ## Digits -/

/-- Digits of a class; a single underscore may stand between two of them. -/
def isDigits (isDigit : Char → Bool) : Text → Bool
  | [] => false
  | [c] => isDigit c
  | c :: '_' :: rest => isDigit c && isDigits isDigit rest
  | c :: rest => isDigit c && isDigits isDigit rest

def isOctalDigit (c : Char) : Bool :=
  '0' ≤ c && c ≤ '7'

def isBinaryDigit (c : Char) : Bool :=
  c = '0' || c = '1'

/-- The number that digits stand for; underscores do not count. -/
def natural (base : Nat) (digits : Text) : Nat :=
  Text.natural base (digits.filter (· != '_'))

/-- Decimal digits without a leading zero, except for zero itself. -/
def isWhole (text : Text) : Bool :=
  match text with
  | ['0'] => true
  | '0' :: _ => false
  | text => isDigits Char.isDigit text

/-- A text without a sign in front, and whether the sign is a minus. -/
def unsigned : Text → Bool × Text
  | '-' :: rest => (true, rest)
  | '+' :: rest => (false, rest)
  | text => (false, text)

/-! ## Integers -/

def minInteger : Int := -0x8000000000000000

def maxInteger : Int := 0x7fffffffffffffff

def inRange (n : Int) : Option Int :=
  if minInteger ≤ n && n ≤ maxInteger then some n else none

def integer? (text : Text) : Option Int :=
  match text with
  | '0' :: 'x' :: digits =>
      if isDigits Text.isHexDigit digits then inRange (natural 16 digits) else none
  | '0' :: 'o' :: digits =>
      if isDigits isOctalDigit digits then inRange (natural 8 digits) else none
  | '0' :: 'b' :: digits =>
      if isDigits isBinaryDigit digits then inRange (natural 2 digits) else none
  | text =>
      let (negative, digits) := unsigned text
      if isWhole digits then
        inRange (if negative then -natural 10 digits else natural 10 digits)
      else none

/-! ## Floats -/

/-- A signed run of digits behind an exponent letter. -/
def exponent? (text : Text) : Option Int :=
  let (negative, digits) := unsigned text
  if isDigits Char.isDigit digits then
    some (if negative then -natural 10 digits else natural 10 digits)
  else none

/-- The part of a text in front of an exponent letter, and the exponent. -/
def splitExponent (text : Text) : Option (Text × Option Int) :=
  let ⟨mantissa, rest, _⟩ := readWhile (fun c => c != 'e' && c != 'E') text
  match rest with
  | [] => some (mantissa, none)
  | _ :: written => do
      let exponent ← exponent? written
      return (mantissa, some exponent)

/-- The digits of a mantissa and the number of them behind the point. -/
def mantissa? (text : Text) (hasExponent : Bool) : Option (Text × Nat) :=
  let ⟨whole, rest, _⟩ := readWhile (· != '.') text
  let plain (digits : Text) : Text := digits.filter (· != '_')
  match rest with
  | [] => if hasExponent && isWhole whole then some (plain whole, 0) else none
  | _ :: fraction =>
      if isWhole whole && isDigits Char.isDigit fraction then
        some (plain whole ++ plain fraction, (plain fraction).length)
      else none

/-- `significand * 10 ^ exponent` is too great for a double: it is at least half way from the
greatest double to the next power of two. -/
def overflows (significand : Nat) (exponent : Int) : Bool :=
  let limit := 0x3fffffffffffff <<< 970
  match exponent with
  | .ofNat power => significand != 0 && (400 < power || limit ≤ significand * powerOfTen power)
  | .negSucc power =>
      let digits := (Nat.toDigits 10 significand).length
      309 + power ≤ digits && limit * powerOfTen (power + 1) ≤ significand

def isSpecial (text : Text) : Bool :=
  text = ['i', 'n', 'f'] || text = ['n', 'a', 'n']

/-- A float that is in range; a negative one always is. -/
def isFloat (text : Text) : Bool :=
  let (negative, text) := unsigned text
  if isSpecial text then true
  else
    match splitExponent text with
    | none => false
    | some (mantissa, exponent) =>
        match mantissa? mantissa exponent.isSome with
        | none => false
        | some (digits, places) =>
            negative || !overflows (natural 10 digits) (exponent.getD 0 - places)

/-! ## Dates and times -/

/-- A number of exactly so many digits within bounds. -/
def field? (width low high : Nat) (text : Text) : Option Nat :=
  if text.length = width && text.all Char.isDigit then
    let n := natural 10 text
    if low ≤ n && n ≤ high then some n else none
  else none

def isLeapYear (year : Nat) : Bool :=
  year % 4 = 0 && (year % 100 != 0 || year % 400 = 0)

def daysIn (year month : Nat) : Nat :=
  if month = 2 then (if isLeapYear year then 29 else 28)
  else if month = 4 || month = 6 || month = 9 || month = 11 then 30
  else 31

def isDate (text : Text) : Bool :=
  match Text.splitOn '-' text with
  | [year, month, day] =>
      match field? 4 0 9999 year, field? 2 1 12 month, field? 2 1 31 day with
      | some year, some month, some day => day ≤ daysIn year month
      | _, _, _ => false
  | _ => false

/-- Seconds, with a fraction or without. -/
def isSeconds (text : Text) : Bool :=
  match Text.splitOn '.' text with
  | [seconds] => (field? 2 0 60 seconds).isSome
  | [seconds, fraction] =>
      (field? 2 0 60 seconds).isSome && !fraction.isEmpty && fraction.all Char.isDigit
  | _ => false

def isTime (text : Text) : Bool :=
  match Text.splitOn ':' text with
  | [hour, minute, seconds] =>
      (field? 2 0 23 hour).isSome && (field? 2 0 59 minute).isSome && isSeconds seconds
  | _ => false

def isOffset (text : Text) : Bool :=
  match Text.splitOn ':' text with
  | [hour, minute] => (field? 2 0 23 hour).isSome && (field? 2 0 59 minute).isSome
  | _ => false

/-- A time with an offset or without. -/
def isOffsetTime (text : Text) : Bool :=
  let ⟨time, rest, _⟩ := readWhile (fun c => c.isDigit || c = ':' || c = '.') text
  isTime time &&
    match rest with
    | [] => true
    | ['Z'] => true
    | ['z'] => true
    | '+' :: offset => isOffset offset
    | '-' :: offset => isOffset offset
    | _ => false

/-- A date, a time, or a date and a time with one of the separators between them. -/
def isMoment (text : Text) : Bool :=
  isDate text || isTime text ||
    match text.drop 10 with
    | separator :: time =>
        (separator = 'T' || separator = 't' || separator = ' ') &&
          isDate (text.take 10) && isOffsetTime time
    | [] => false

/-! ## All scalars -/

/-- The value that a text without quotation marks stands for. -/
def value? (text : Text) : Option Toml :=
  if text = ['t', 'r', 'u', 'e'] then some (.boolean true)
  else if text = ['f', 'a', 'l', 's', 'e'] then some (.boolean false)
  else
    match integer? text with
    | some n => some (.integer n)
    | none => if isFloat text then some .float else if isMoment text then some .moment else none

end Scalar
end Toml
end PaperFilter
