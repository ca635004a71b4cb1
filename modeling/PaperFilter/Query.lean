import PaperFilter.Query.Evaluation
import PaperFilter.Query.Grammar

/-!
# Queries

A query is read once and can then be matched against any number of texts.
-/

namespace PaperFilter

structure Query where
  /-- The expression as it was given. -/
  source : Text
  root : Node
deriving Repr, DecidableEq

namespace Query

def parse [PatternCompiler] (source : Text) : Except QueryError Query := do
  let root ← Node.parse source
  return ⟨source, root⟩

def matchesText (query : Query) (text : Text) : Bool :=
  query.root.eval (Context.ofText text)

end Query

/-- Whether a text, taken as it is, satisfies an expression. -/
def matchesExpression [PatternCompiler] (text expression : Text) : Except QueryError Bool := do
  let query ← Query.parse expression
  return query.matchesText text

end PaperFilter
