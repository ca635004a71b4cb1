import PaperFilter.Query.Lexeme

/-!
# Structure of a query

Before a tree is built, the lexemes of a query are walked once from left to right.  The walk refuses
an empty query, an empty pair of parentheses, a parenthesis without its partner, an operator
without an operand, and nesting beyond the limit; of several mistakes it names the first that it
meets, and an opening parenthesis that is never closed only at the end.
-/

namespace PaperFilter
namespace Structure

/-- How deep open parentheses together with a run of `not`s may nest. -/
def maxNesting : Nat := 128

def startsOperand : Symbol → Bool
  | .word _ => true
  | .phrase _ => true
  | .opening => true
  | .operator .not => true
  | _ => false

def endsOperand : Symbol → Bool
  | .word _ => true
  | .phrase _ => true
  | .closing => true
  | _ => false

/-- What the walk has seen: the positions of the parentheses that are open, the innermost first, the
length of the run of `not`s that it stands behind, and the last symbol. -/
structure Walk where
  opened : List Nat
  nots : Nat
  previous : Option Symbol
deriving Repr, DecidableEq

namespace Walk

def start : Walk := ⟨[], 0, none⟩

/-- The parentheses that are open behind a lexeme. -/
def openedBehind (walk : Walk) (lexeme : Lexeme) (next : Option Symbol) :
    Except QueryError (List Nat) :=
  match lexeme.symbol with
  | .word _ => .ok walk.opened
  | .phrase _ => .ok walk.opened
  | .opening =>
      if next = some .closing then .error (.emptyGroup lexeme.position)
      else .ok (lexeme.position :: walk.opened)
  | .closing =>
      match walk.opened with
      | [] => .error (.unbalancedParens lexeme.position)
      | _ :: outer => .ok outer
  | .operator .not =>
      if next.any startsOperand then .ok walk.opened
      else .error (.missingOperand .not lexeme.position)
  | .operator keyword =>
      if walk.previous.any endsOperand && next.any startsOperand then .ok walk.opened
      else .error (.missingOperand keyword lexeme.position)

def step (walk : Walk) (lexeme : Lexeme) (next : Option Symbol) : Except QueryError Walk := do
  let opened ← walk.openedBehind lexeme next
  let nots := if lexeme.symbol = .operator .not then walk.nots + 1 else 0
  if opened.length + nots > maxNesting then
    throw (.tooDeep maxNesting lexeme.position)
  return ⟨opened, nots, some lexeme.symbol⟩

def run (walk : Walk) : List Lexeme → Except QueryError Unit
  | [] =>
      match walk.opened.getLast? with
      | some position => .error (.unbalancedParens position)
      | none => .ok ()
  | lexeme :: rest => do
      let walk ← walk.step lexeme (rest.head?.map Lexeme.symbol)
      run walk rest

end Walk

/-- Accept the lexemes of a well-formed query. -/
def check (lexemes : List Lexeme) : Except QueryError Unit :=
  if lexemes.isEmpty then .error .empty else Walk.start.run lexemes

end Structure
end PaperFilter
