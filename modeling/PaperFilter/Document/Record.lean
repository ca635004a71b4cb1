import PaperFilter.Document.Links
import PaperFilter.Document.Normal
import PaperFilter.Json.Value

/-!
# Documents

A document is the record of a paper.  Its title and its abstract are read by queries; every other
field is carried along as it came.
-/

namespace PaperFilter

structure Document where
  title : Text
  abstractText : Text
  /-- The other fields, in increasing order of their keys. -/
  extra : Json.Members
deriving Repr

/-- The field that a query is evaluated against. -/
inductive Source where
  | title
  | abstractText
deriving Repr, DecidableEq

namespace Source

def name : Source → Text
  | .title => "title".toList
  | .abstractText => "abstract".toList

/-- The source with exactly this name. -/
def ofName? (text : Text) : Option Source :=
  if text = Source.title.name then some .title
  else if text = Source.abstractText.name then some .abstractText
  else none

end Source

/-- A name that is no source's in any letter case. -/
structure UnknownSource where
  name : Text
deriving Repr, DecidableEq

def UnknownSource.message (error : UnknownSource) : Text :=
  "Unknown text source: ".toList ++ error.name

/-- The source with this name in any letter case. -/
def Source.parse (text : Text) : Except UnknownSource Source :=
  match Source.ofName? (Unicode.lowercase text) with
  | some source => .ok source
  | none => .error ⟨text⟩

namespace Document

def ofTexts (title abstractText : Text) : Document :=
  ⟨title, abstractText, []⟩

def rawText (document : Document) : Source → Text
  | .title => document.title
  | .abstractText => document.abstractText

/-- What a query sees of a field. -/
def normalText (document : Document) : Source → Text
  | .title => Normal.ofTitle document.title
  | .abstractText => Normal.ofAbstract document.abstractText

end Document

end PaperFilter
