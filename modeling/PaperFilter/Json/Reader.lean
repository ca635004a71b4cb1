import PaperFilter.Json.Value
import PaperFilter.Text.Digits

/-!
# Reading JSON

A reader takes one construct off the front of a text.  Numbers without a fraction and an exponent
are integers where they lie in the range from `-2 ^ 63` to `2 ^ 64 - 1`; all other numbers, and
minus zero, are doubles.  Arrays and objects nest up to a depth that the caller gives.
-/

namespace PaperFilter
namespace Json

def isSpace (c : Char) : Bool :=
  c = ' ' || c = '\t' || c = '\n' || c = '\r'

/-! ## Strings -/

def isLeadingSurrogate (unit : Nat) : Bool :=
  0xd800 ≤ unit && unit < 0xdc00

def isTrailingSurrogate (unit : Nat) : Bool :=
  0xdc00 ≤ unit && unit < 0xe000

/-- The character that a pair of surrogates stands for. -/
def pairedChar (leading trailing : Nat) : Char :=
  Char.ofNat (0x10000 + (leading - 0xd800) * 0x400 + (trailing - 0xdc00))

/-- Four digits behind a backslash and the letter `u`. -/
def readEscapedUnit : (text : Text) → Option (Shorter Nat text)
  | '\\' :: 'u' :: rest => (Text.readHex 0 4 rest).map fun unit => (unit.cons 'u').cons '\\'
  | _ => none

/-- The character of four digits, or of a pair of surrogates, behind the letter `u`. -/
def readCodePoint (text : Text) : Option (NoLonger Char text) := do
  let unit ← Text.readHex 0 4 text
  if isLeadingSurrogate unit.value then
    let second ← readEscapedUnit unit.rest
    if isTrailingSurrogate second.value then
      return ((unit.andThen second).map (pairedChar unit.value)).toNoLonger
    else none
  else if isTrailingSurrogate unit.value then none
  else return unit.map Char.ofNat

/-- The character of an escape, behind the backslash. -/
def readEscape : (text : Text) → Option (Shorter Char text)
  | '"' :: _ => some (.head '"')
  | '\\' :: _ => some (.head '\\')
  | '/' :: _ => some (.head '/')
  | 'b' :: _ => some (.head '\x08')
  | 'f' :: _ => some (.head '\x0c')
  | 'n' :: _ => some (.head '\n')
  | 'r' :: _ => some (.head '\r')
  | 't' :: _ => some (.head '\t')
  | 'u' :: rest => (readCodePoint rest).map (NoLonger.cons 'u')
  | _ => none

/-- The text of a string up to its closing quotation mark, behind the opening one. -/
def readString : (text : Text) → Option (Shorter Text text)
  | [] => none
  | c :: rest =>
      if c = '"' then some (.head [])
      else if c = '\\' then do
        let escaped ← readEscape rest
        let others ← readString escaped.rest
        return ((escaped.andThen others).map (escaped.value :: ·)).cons c
      else if c.toNat < 0x20 then none
      else do
        let others ← readString rest
        return (others.map (c :: ·)).cons c
termination_by text => text.length
decreasing_by
  · exact (escaped.cons c).isShorter
  · exact Nat.lt_succ_self _

/-! ## Numbers -/

/-- The written form of a number. -/
structure Numeral where
  negative : Bool
  whole : Text
  /-- The digits behind a point. -/
  fraction : Option Text
  /-- The exponent, where one is written. -/
  exponent : Option Int
deriving Repr, DecidableEq

namespace Numeral

def maxNatural : Nat := 0xffffffffffffffff

def maxNegated : Nat := 0x8000000000000000

/-- Take digits into a significand while it stays within 64 bits, and count those left out. -/
def accumulate (significand : Nat) : Text → Nat × Nat
  | [] => (significand, 0)
  | c :: rest =>
      let next := significand * 10 + Text.digitValue c
      if next ≤ maxNatural then accumulate next rest else (significand, rest.length + 1)

/-- The magnitude as a double.  Digits that do not fit into the significand count as zeros. -/
def magnitude? (numeral : Numeral) : Option Double :=
  let (whole, dropped) := accumulate 0 numeral.whole
  let fraction := numeral.fraction.getD []
  let (significand, ignored) := accumulate whole fraction
  let exponent : Int :=
    dropped - (fraction.length - ignored : Nat) + numeral.exponent.getD 0
  Double.ofDecimal? significand exponent

/-- The integer that a numeral without a point and an exponent stands for, if it is in range. -/
def integer? (numeral : Numeral) : Option Int :=
  if numeral.fraction.isSome || numeral.exponent.isSome then none
  else
    let n := Text.natural 10 numeral.whole
    if numeral.negative then
      if 0 < n && n ≤ maxNegated then some (-n) else none
    else if n ≤ maxNatural then some n
    else none

def value? (numeral : Numeral) : Option Number :=
  match numeral.integer? with
  | some n => some (.integer n)
  | none => numeral.magnitude?.map (Number.double numeral.negative)

end Numeral

/-- One or more digits. -/
def readDigits : (text : Text) → Option (Shorter Text text)
  | [] => none
  | c :: rest =>
      if c.isDigit then some (((readWhile Char.isDigit rest).map (c :: ·)).cons c) else none

/-- A single zero, or digits of which the first is not zero. -/
def readWhole : (text : Text) → Option (Shorter Text text)
  | '0' :: rest => if rest.head?.any Char.isDigit then none else some (.head ['0'])
  | text => readDigits text

def readFraction : (text : Text) → Option (NoLonger (Option Text) text)
  | '.' :: rest => (readDigits rest).map fun digits => ((digits.map some).cons '.').toNoLonger
  | _ => some (.nothing none)

/-- The digits of an exponent with the sign in front of them. -/
def readSigned : (text : Text) → Option (Shorter Int text)
  | '-' :: rest => do
      let digits ← readDigits rest
      return (digits.map fun digits => Int.negOfNat (Text.natural 10 digits)).cons '-'
  | '+' :: rest => do
      let digits ← readDigits rest
      return (digits.map fun digits => Int.ofNat (Text.natural 10 digits)).cons '+'
  | text => do
      let digits ← readDigits text
      return digits.map fun digits => Int.ofNat (Text.natural 10 digits)

def readExponent : (text : Text) → Option (NoLonger (Option Int) text)
  | [] => some (.nothing none)
  | c :: rest =>
      if c = 'e' || c = 'E' then
        (readSigned rest).map fun exponent => ((exponent.map some).cons c).toNoLonger
      else some (.nothing none)

/-- A number without its sign. -/
def readUnsigned (negative : Bool) (text : Text) : Option (Shorter Number text) := do
  let whole ← readWhole text
  let fraction ← readFraction whole.rest
  let exponent ← readExponent fraction.rest
  let value ← Numeral.value? ⟨negative, whole.value, fraction.value, exponent.value⟩
  return (whole.andMaybe (fraction.andMaybe exponent)).map fun _ => value

def readNumber : (text : Text) → Option (Shorter Number text)
  | '-' :: rest => (readUnsigned true rest).map (Shorter.cons '-')
  | text => readUnsigned false text

/-! ## Values -/

/-- The rest of a literal word. -/
def readLiteral (word : Text) (value : Json) (text : Text) : Option (NoLonger Json text) :=
  if word.isPrefixOf text then some (.taking word.length value) else none

/-- A key, behind white space, and the colon behind it. -/
def readKey (text : Text) : Option (Shorter Text text) := do
  let mark ← readThisPast isSpace '"' text
  let key ← readString mark.rest
  let colon ← readThisPast isSpace ':' key.rest
  return (mark.andThen (key.andThen colon)).map fun _ => key.value

mutual

/-- A value behind white space, with at most `depth` arrays and objects inside each other. -/
def readValue (depth : Nat) (text : Text) : Option (Shorter Json text) := do
  let first ← readPast isSpace text
  match first.value with
  | 'n' => return first.andMaybe (← readLiteral ['u', 'l', 'l'] .null first.rest)
  | 't' => return first.andMaybe (← readLiteral ['r', 'u', 'e'] (.bool true) first.rest)
  | 'f' => return first.andMaybe (← readLiteral ['a', 'l', 's', 'e'] (.bool false) first.rest)
  | '"' => return first.andThen ((← readString first.rest).map .string)
  | '[' =>
      match depth with
      | 0 => none
      | depth + 1 => return first.andThen ((← readArray depth first.rest).map .array)
  | '\x7b' =>
      match depth with
      | 0 => none
      | depth + 1 =>
          let settings ← readObject depth first.rest
          return first.andThen (settings.map fun settings => .object (ofSettings settings))
  | _ =>
      let space := readWhile isSpace text
      return space.andThen ((← readNumber space.rest).map .number)
termination_by (text.length, 0)
decreasing_by
  · exact .left _ _ first.isShorter
  · exact .left _ _ first.isShorter

/-- The items of an array, behind its opening bracket. -/
def readArray (depth : Nat) (text : Text) : Option (Shorter (List Json) text) := do
  let first ← readPast isSpace text
  if first.value = ']' then return first.map fun _ => [] else readItems depth text
termination_by (text.length, 2)
decreasing_by
  · exact .right _ (Nat.lt_succ_self _)

/-- One or more items and the closing bracket. -/
def readItems (depth : Nat) (text : Text) : Option (Shorter (List Json) text) := do
  let item ← readValue depth text
  let mark ← readPast isSpace item.rest
  match mark.value with
  | ',' =>
      let others ← readItems depth mark.rest
      return (item.andThen (mark.andThen others)).map (item.value :: ·)
  | ']' => return (item.andThen mark).map fun _ => [item.value]
  | _ => none
termination_by (text.length, 1)
decreasing_by
  · exact .right _ (Nat.lt_succ_self _)
  · exact .left _ _ (item.andThen mark).isShorter

/-- The members of an object in the order in which they are written, behind its opening brace. -/
def readObject (depth : Nat) (text : Text) : Option (Shorter (List (Text × Json)) text) := do
  let first ← readPast isSpace text
  if first.value = '\x7d' then return first.map fun _ => [] else readMembers depth text
termination_by (text.length, 2)
decreasing_by
  · exact .right _ (Nat.lt_succ_self _)

/-- One or more members and the closing brace. -/
def readMembers (depth : Nat) (text : Text) : Option (Shorter (List (Text × Json)) text) := do
  let key ← readKey text
  let value ← readValue depth key.rest
  let mark ← readPast isSpace value.rest
  let member := (key.value, value.value)
  match mark.value with
  | ',' =>
      let others ← readMembers depth mark.rest
      return (key.andThen (value.andThen (mark.andThen others))).map (member :: ·)
  | '\x7d' => return (key.andThen (value.andThen mark)).map fun _ => [member]
  | _ => none
termination_by (text.length, 1)
decreasing_by
  · exact .left _ _ key.isShorter
  · exact .left _ _ (key.andThen (value.andThen mark)).isShorter

end

/-- The value that a whole text is, with white space around it. -/
def read? (depth : Nat) (text : Text) : Option Json := do
  let found ← readValue depth text
  if found.rest.all isSpace then some found.value else none

end Json
end PaperFilter
