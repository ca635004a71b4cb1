import PaperFilter.Query.Node
import PaperFilter.Token

/-!
# Evaluating a query

A query is evaluated against a text and its tokens: a word looks for one token that it matches, and
a phrase for its words in the text itself, with one space between each two.
-/

namespace PaperFilter

/-- What a query sees of a document. -/
structure Context where
  text : Text
  tokens : List Text
deriving Repr, DecidableEq

def Context.ofText (text : Text) : Context :=
  ⟨text, tokenize text⟩

namespace Node

mutual

def eval (context : Context) : Node → Bool
  | .and children => evalAll context children
  | .or children => evalAny context children
  | .not child => !eval context child
  | .phrase words => (Text.joinWith [' '] words).occursIn context.text
  | .word term => term.wildcard.matchesAny context.tokens

/-- Every node of a list holds. -/
def evalAll (context : Context) : List Node → Bool
  | [] => true
  | child :: rest => eval context child && evalAll context rest

/-- Some node of a list holds. -/
def evalAny (context : Context) : List Node → Bool
  | [] => false
  | child :: rest => eval context child || evalAny context rest

end

theorem evalAll_eq_all (context : Context) (nodes : List Node) :
    evalAll context nodes = nodes.all (eval context) := by
  induction nodes with
  | nil => simp [evalAll]
  | cons node rest ih => simp [evalAll, ih]

theorem evalAny_eq_any (context : Context) (nodes : List Node) :
    evalAny context nodes = nodes.any (eval context) := by
  induction nodes with
  | nil => simp [evalAny]
  | cons node rest ih => simp [evalAny, ih]

end Node

end PaperFilter
