import PaperFilter.Text.Quoted

/-!
# Errors of a query

A query that cannot be read is refused with one cause.  Where the cause has a place in the query,
the error carries the number of characters before it.
-/

namespace PaperFilter

/-- The words that combine queries. -/
inductive Keyword where
  | and
  | or
  | not
deriving Repr, DecidableEq

namespace Keyword

def text : Keyword → Text
  | .and => ['a', 'n', 'd']
  | .or => ['o', 'r']
  | .not => ['n', 'o', 't']

end Keyword

inductive QueryError where
  | empty
  | unexpectedCharacter (ch : Char) (position : Nat)
  | unterminatedQuote (position : Nat)
  | emptyGroup (position : Nat)
  | unbalancedParens (position : Nat)
  | missingOperand (keyword : Keyword) (position : Nat)
  | tooDeep (limit position : Nat)
  | unexpectedToken (found : Text) (position : Nat)
  | invalidWildcard (word reason : Text)
deriving Repr, DecidableEq

namespace QueryError

/-- The number of characters before the cause. -/
def position? : QueryError → Option Nat
  | .empty => none
  | .unexpectedCharacter _ position => some position
  | .unterminatedQuote position => some position
  | .emptyGroup position => some position
  | .unbalancedParens position => some position
  | .missingOperand _ position => some position
  | .tooDeep _ position => some position
  | .unexpectedToken _ position => some position
  | .invalidWildcard _ _ => none

def atPosition (position : Nat) : Text :=
  " at position ".toList ++ Text.ofNat position

def message : QueryError → Text
  | .empty => "empty query".toList
  | .unexpectedCharacter ch position =>
      "unexpected character ".toList ++ Text.quotedChar ch ++ atPosition position
  | .unterminatedQuote position =>
      "unterminated quote starting".toList ++ atPosition position
  | .emptyGroup position => "empty group".toList ++ atPosition position
  | .unbalancedParens position => "unbalanced parenthesis".toList ++ atPosition position
  | .missingOperand keyword position =>
      "operator '".toList ++ keyword.text ++ "'".toList ++ atPosition position ++
        " is missing an operand".toList
  | .tooDeep limit position =>
      "query nests deeper than ".toList ++ Text.ofNat limit ++ " levels".toList ++
        atPosition position
  | .unexpectedToken found position => "unexpected ".toList ++ found ++ atPosition position
  | .invalidWildcard word reason =>
      "invalid wildcard term ".toList ++ Text.quoted word ++ ": ".toList ++ reason

end QueryError

end PaperFilter
