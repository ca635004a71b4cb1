import PaperFilter.Config.Settings
import PaperFilter.Document.Encode
import PaperFilter.Query

/-!
# Filtering documents

A filter keeps the documents whose title or abstract, in normal form, satisfies its query.  A filter
without a query keeps every document.  A large batch is shared among workers, each of which puts its
verdicts where its documents stand in the batch.
-/

namespace PaperFilter

structure DocumentFilter where
  query : Option Query
  source : Source
  extractCodeUrls : Bool
  performance : PerformanceSettings
deriving Repr, DecidableEq

inductive Verdict where
  | keep (document : KeptDocument)
  | drop (reason : Text)
deriving Repr

/-- The outcome for a batch of documents. -/
structure Report where
  /-- The kept documents in the order of the batch. -/
  kept : List KeptDocument
  dropped : Nat
deriving Repr

namespace Report

def total (report : Report) : Nat :=
  report.kept.length + report.dropped

def ofVerdicts : List Verdict → Report
  | [] => ⟨[], 0⟩
  | .keep document :: rest =>
      let report := ofVerdicts rest
      ⟨document :: report.kept, report.dropped⟩
  | .drop _ :: rest =>
      let report := ofVerdicts rest
      ⟨report.kept, report.dropped + 1⟩

end Report

/-- How a batch is shared: one worker takes all of it in order, or it is cut at a place and each of
the two parts is shared further. -/
inductive Sharing where
  | whole
  | cut (place : Nat) (front behind : Sharing)
deriving Repr, DecidableEq

namespace Sharing

/-- What the workers make of a batch, each result at the place of what it is made of. -/
def map {α β : Type} (f : α → β) : Sharing → List α → List β
  | .whole, batch => batch.map f
  | .cut place front behind, batch =>
      front.map f (batch.take place) ++ behind.map f (batch.drop place)

/-- Two workers with a half of the batch each. -/
def halves (length : Nat) : Sharing :=
  .cut (length / 2) .whole .whole

end Sharing

namespace DocumentFilter

/-- The query that a filter reads: the expression without the blanks around it, in lowercase where
the settings say so, and none if nothing is left. -/
def readQuery [PatternCompiler] (expr : Text) (settings : QuerySettings) :
    Except QueryError (Option Query) :=
  let expr := Unicode.trim expr
  if expr.isEmpty then .ok none
  else if settings.foldCase then (Query.parse (Unicode.lowercase expr)).map some
  else (Query.parse expr).map some

def build [PatternCompiler] (expr : Text) (config : Config) :
    Except QueryError DocumentFilter := do
  let query ← readQuery expr config.query
  return ⟨query, config.filter.source, config.filter.extractCodeUrls, config.performance⟩

def ofConfig [PatternCompiler] (config : Config) : Except QueryError DocumentFilter :=
  build config.query.expr config

def withSource (filter : DocumentFilter) (source : Source) : DocumentFilter :=
  { filter with source := source }

def matchesAll (filter : DocumentFilter) : Bool :=
  filter.query.isNone

/-- What the query sees of a document. -/
def normalText (filter : DocumentFilter) (document : Document) : Text :=
  document.normalText filter.source

def isMatch (filter : DocumentFilter) (document : Document) : Bool :=
  match filter.query with
  | none => true
  | some query => query.matchesText (filter.normalText document)

/-- The expression that documents are kept for. -/
def matchedQuery (filter : DocumentFilter) : Text :=
  match filter.query with
  | none => []
  | some query => query.source

/-- A kept document, with what is derived from it. -/
def keep (filter : DocumentFilter) (document : Document) : KeptDocument where
  document := document
  codeUrls := if filter.extractCodeUrls then links document.abstractText else []
  matchedQuery := filter.matchedQuery

def check (filter : DocumentFilter) (document : Document) : Verdict :=
  if filter.isMatch document then .keep (filter.keep document)
  else .drop ("missing keyword in ".toList ++ Text.quoted document.title)

/-- The verdicts on a batch, which is shared as given if it is large enough for that. -/
def verdicts (filter : DocumentFilter) (sharing : Sharing) (documents : List Document) :
    List Verdict :=
  if filter.performance.usesParallel documents.length then sharing.map filter.check documents
  else documents.map filter.check

def runShared (filter : DocumentFilter) (sharing : Sharing) (documents : List Document) : Report :=
  Report.ofVerdicts (filter.verdicts sharing documents)

def run (filter : DocumentFilter) (documents : List Document) : Report :=
  filter.runShared (.halves documents.length) documents

end DocumentFilter

end PaperFilter
