import PaperFilter.Text

/-!
# Writing TOML

A document is written as sections of `key = value` lines with an empty line between each two
sections.  A string is written in the first of several forms that can hold it as it is; only where
none can is it escaped.
-/

namespace PaperFilter
namespace Toml

/-! ## Forms of a string -/

/-- The quotation marks that a string is written between. -/
inductive StringForm where
  | basic
  | literal
  | multilineBasic
  | multilineLiteral
deriving Repr, DecidableEq

/-- A control that no form can hold as it is; tabs and line feeds are not among them. -/
def isControl (c : Char) : Bool :=
  (c.toNat < 0x20 && c != '\t' && c != '\n') || c.toNat = 0x7f

def hasTriple (mark : Char) (text : Text) : Bool :=
  Text.occursIn [mark, mark, mark] text

namespace StringForm

/-- The form that a string is written in. -/
def choose (text : Text) : StringForm :=
  let controls := text.any isControl
  let feeds := text.contains '\n'
  if !controls && !text.contains '\\' && !text.contains '"' && !feeds then .basic
  else if !controls && !text.contains '\'' && !feeds then .literal
  else if !controls && !text.contains '\\' && !hasTriple '"' text then .multilineBasic
  else if !controls && !hasTriple '\'' text then .multilineLiteral
  else if feeds then .multilineBasic
  else .basic

end StringForm

/-! ## Escapes -/

/-- A code point below 256 as an escape of four digits. -/
def unicodeEscape (c : Char) : Text :=
  let digit (n : Nat) : Char := (Nat.digitChar n).toUpper
  ['\\', 'u', '0', '0', digit (c.toNat / 16), digit (c.toNat % 16)]

/-- The escape of a character other than a quotation mark and a line feed. -/
def escape (c : Char) : Text :=
  if c = '\x08' then ['\\', 'b']
  else if c = '\t' then ['\\', 't']
  else if c = '\x0c' then ['\\', 'f']
  else if c = '\r' then ['\\', 'r']
  else if c = '\\' then ['\\', '\\']
  else if isControl c then unicodeEscape c
  else [c]

def escapeInLine (c : Char) : Text :=
  if c = '"' then ['\\', '"'] else if c = '\n' then ['\\', 'n'] else escape c

/-- Escape every third quotation mark of a run.  `marks` is the number of marks since the last
other character or escaped mark. -/
def escapeInLines (marks : Nat) : Text → Text
  | [] => []
  | c :: rest =>
      if c = '"' then
        if marks < 2 then '"' :: escapeInLines (marks + 1) rest
        else '\\' :: '"' :: escapeInLines 0 rest
      else if c = '\n' then '\n' :: escapeInLines 0 rest
      else escape c ++ escapeInLines 0 rest

/-! ## Values -/

/-- A line feed behind the opening marks, where the string has line feeds of its own. -/
def firstNewline (text : Text) : Text :=
  if text.contains '\n' then ['\n'] else []

def writeStringIn (form : StringForm) (text : Text) : Text :=
  match form with
  | .basic => '"' :: (text.flatMap escapeInLine ++ ['"'])
  | .literal => '\'' :: (text ++ ['\''])
  | .multilineBasic =>
      ['"', '"', '"'] ++ firstNewline text ++ escapeInLines 0 text ++ ['"', '"', '"']
  | .multilineLiteral =>
      ['\'', '\'', '\''] ++ firstNewline text ++ text ++ ['\'', '\'', '\'']

def writeString (text : Text) : Text :=
  writeStringIn (StringForm.choose text) text

/-- A value that fits on one line, string forms with line feeds apart. -/
inductive Plain where
  | string (text : Text)
  | natural (value : Nat)
  | boolean (value : Bool)
deriving Repr, DecidableEq

def writePlain : Plain → Text
  | .string text => writeString text
  | .natural value => Text.ofNat value
  | .boolean true => ['t', 'r', 'u', 'e']
  | .boolean false => ['f', 'a', 'l', 's', 'e']

/-! ## Sections -/

/-- A table with a header of its own. -/
structure Section where
  name : Text
  settings : List (Text × Plain)
deriving Repr, DecidableEq

def writeSetting (setting : Text × Plain) : Text :=
  setting.1 ++ [' ', '=', ' '] ++ writePlain setting.2 ++ ['\n']

def writeSection (part : Section) : Text :=
  ['['] ++ part.name ++ [']', '\n'] ++ part.settings.flatMap writeSetting

def writeSections (parts : List Section) : Text :=
  Text.joinWith ['\n'] (parts.map writeSection)

end Toml
end PaperFilter
