import PaperFilter.Document.Record
import PaperFilter.Json.Writer

/-!
# Writing a document

A document is written as one JSON object: the title, the abstract, and then the other fields.  A
document that a filter has kept is followed by the links of its abstract and the expression that it
was kept for.
-/

namespace PaperFilter

/-- A document that a filter has kept. -/
structure KeptDocument where
  document : Document
  codeUrls : List Text
  /-- The expression of the filter, empty where it keeps every document. -/
  matchedQuery : Text
deriving Repr

namespace Document

/-- The members of the object that stands for a document. -/
def members (document : Document) : Json.Members :=
  ("title".toList, .string document.title) ::
    ("abstract".toList, .string document.abstractText) :: document.extra

def toJson (document : Document) : Json :=
  .object document.members

def encode (document : Document) : Text :=
  Json.write document.toJson

end Document

namespace KeptDocument

def toJson (kept : KeptDocument) : Json :=
  .object (kept.document.members ++
    [("code_urls".toList, .array (kept.codeUrls.map .string)),
      ("matched_query".toList, .string kept.matchedQuery)])

def encode (kept : KeptDocument) : Text :=
  Json.write kept.toJson

end KeptDocument

end PaperFilter
