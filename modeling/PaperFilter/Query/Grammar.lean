import PaperFilter.Front
import PaperFilter.Query.Node
import PaperFilter.Query.Structure

/-!
# The grammar of queries

A disjunction is one or more conjunctions with `or` between them; a conjunction is one or more
negations, with or without `and` between them; a negation is any number of `not`s before a group;
and a group is a disjunction in parentheses, a phrase or a word.  Each rule reads a part of the
query off the front of the lexemes and returns its tree with the lexemes behind it.
-/

namespace PaperFilter
namespace Grammar

/-- The error for lexemes that begin where the grammar asks for something else; `finish` is the
length of the query. -/
def unexpected (finish : Nat) : List Lexeme → QueryError
  | [] => .unexpectedToken "end of query".toList finish
  | lexeme :: _ => .unexpectedToken lexeme.symbol.describe lexeme.position

variable [PatternCompiler]

mutual

def orExpr (finish : Nat) (lexemes : List Lexeme) : Except QueryError (Shorter Node lexemes) := do
  let first ← andExpr finish lexemes
  let others ← orOthers finish first.rest
  return (first.andMaybe others).map fun others => Node.disjunction (first.value :: others)
termination_by (lexemes.length, 4)
decreasing_by
  · exact .right _ (Nat.lt_succ_self _)
  · exact .left _ _ first.isShorter

/-- The conjunctions that follow the first one, each behind an `or`. -/
def orOthers (finish : Nat) (lexemes : List Lexeme) :
    Except QueryError (NoLonger (List Node) lexemes) :=
  match lexemes with
  | ⟨.operator .or, position⟩ :: rest => do
      let next ← andExpr finish rest
      let others ← orOthers finish next.rest
      let conjunctions := (next.andMaybe others).map fun others => next.value :: others
      return (conjunctions.cons ⟨.operator .or, position⟩).toNoLonger
  | _ => return .nothing []
termination_by (lexemes.length, 0)
decreasing_by
  · exact .left _ _ (Nat.lt_succ_self _)
  · exact .left _ _ (next.cons _).isShorter

def andExpr (finish : Nat) (lexemes : List Lexeme) : Except QueryError (Shorter Node lexemes) := do
  let first ← notExpr finish lexemes
  let others ← andOthers finish first.rest
  return (first.andMaybe others).map fun others => Node.conjunction (first.value :: others)
termination_by (lexemes.length, 3)
decreasing_by
  · exact .right _ (by decide)
  · exact .left _ _ first.isShorter

/-- The negations that follow the first one, up to an `or`, a closing parenthesis or the end. -/
def andOthers (finish : Nat) (lexemes : List Lexeme) :
    Except QueryError (NoLonger (List Node) lexemes) :=
  match lexemes with
  | [] => return .nothing []
  | ⟨.operator .or, _⟩ :: _ => return .nothing []
  | ⟨.closing, _⟩ :: _ => return .nothing []
  | ⟨.operator .and, position⟩ :: rest => do
      let next ← notExpr finish rest
      let others ← andOthers finish next.rest
      let negations := (next.andMaybe others).map fun others => next.value :: others
      return (negations.cons ⟨.operator .and, position⟩).toNoLonger
  | lexeme :: rest => do
      let next ← notExpr finish (lexeme :: rest)
      let others ← andOthers finish next.rest
      return ((next.andMaybe others).map fun others => next.value :: others).toNoLonger
termination_by (lexemes.length, 2)
decreasing_by
  · exact .left _ _ (Nat.lt_succ_self _)
  · exact .left _ _ (next.cons _).isShorter
  · exact .right _ (Nat.lt_succ_self _)
  · exact .left _ _ next.isShorter

def notExpr (finish : Nat) (lexemes : List Lexeme) : Except QueryError (Shorter Node lexemes) :=
  match lexemes with
  | ⟨.operator .not, position⟩ :: rest => do
      let child ← notExpr finish rest
      return (child.map Node.not).cons ⟨.operator .not, position⟩
  | lexemes => group finish lexemes
termination_by (lexemes.length, 1)
decreasing_by
  · exact .left _ _ (Nat.lt_succ_self _)
  · exact .right _ (Nat.lt_succ_self _)

def group (finish : Nat) (lexemes : List Lexeme) : Except QueryError (Shorter Node lexemes) :=
  match lexemes with
  | ⟨.opening, position⟩ :: rest => do
      let inner ← orExpr finish rest
      match inner.toNoLonger.next? with
      | some ⟨⟨.closing, _⟩, behind, h⟩ =>
          return (Shorter.mk inner.value behind h).cons ⟨.opening, position⟩
      | _ => throw (unexpected finish inner.rest)
  | ⟨.phrase words, _⟩ :: _ => return .head (.phrase words)
  | ⟨.word text, _⟩ :: _ => do
      let term ← Term.ofText text
      return .head (.word term)
  | lexemes => throw (unexpected finish lexemes)
termination_by (lexemes.length, 0)
decreasing_by
  · exact .left _ _ (Nat.lt_succ_self _)

end

/-- The tree of all the lexemes; `finish` is the length of the query. -/
def tree (finish : Nat) (lexemes : List Lexeme) : Except QueryError Node := do
  let found ← orExpr finish lexemes
  if found.rest.isEmpty then return found.value else throw (unexpected finish found.rest)

end Grammar

/-- The tree of a query, or the first error in it: a character or quotation mark out of place, then
a mistake of structure, then a word that does not compile. -/
def Node.parse [PatternCompiler] (query : Text) : Except QueryError Node := do
  let lexemes ← Lexeme.scan query
  Structure.check lexemes
  Grammar.tree query.length lexemes

end PaperFilter
