import PaperFilter.Text.Encoding

/-!
# Paths

A path is a way through a tree of files, written as parts with slashes between them.  It is walked
one step after the other, so that a path through a directory that is not there leads nowhere, even
if its next step goes up again.
-/

namespace PaperFilter

/-- The names that lead from the root to an entry. -/
abbrev Place := List Text

inductive Path.Step where
  /-- Into the entry of a name. -/
  | into (name : Text)
  /-- To the directory above; the root is above itself. -/
  | up
  | stay
deriving Repr, DecidableEq

structure Path where
  /-- The directory that the path starts from. -/
  origin : Place
  /-- What stands between the slashes.  A part may be empty, which is no step. -/
  parts : List Text
deriving Repr, DecidableEq

namespace Path

namespace Step

def ofText (text : Text) : Step :=
  if text = ['.'] then .stay else if text = ['.', '.'] then .up else .into text

/-- The place that a step leads to. -/
def leadsTo (position : Place) : Step → Place
  | .into name => position ++ [name]
  | .up => position.dropLast
  | .stay => position

end Step

/-- The path that a text names from a directory, or from the root if it begins with a slash. -/
def ofText (directory : Place) (text : Text) : Path where
  origin := if text.head? = some '/' then [] else directory
  parts := Text.splitOn '/' text

/-- The text of a path. -/
def text (path : Path) : Text :=
  Text.joinWith ['/'] path.parts

def steps (path : Path) : List Step :=
  (path.parts.filter fun part => !part.isEmpty).map Step.ofText

/-- A slash at the end says that the path leads to a directory. -/
def endsInSlash (path : Path) : Bool :=
  decide (path.text.getLast? = some '/')

/-- The path of the empty text, which leads nowhere. -/
def isEmpty (path : Path) : Bool :=
  path.text.isEmpty

/-! ## Parents -/

/-- A part that leads somewhere else. -/
def moves (part : Text) : Bool :=
  !part.isEmpty && part != ['.']

/-- Parts, given backwards, without the last one that moves and what follows it. -/
def withoutLast (parts : List Text) : List Text :=
  ((parts.dropWhile fun part => !moves part).drop 1).dropWhile fun part => !moves part

/-- The path without its last step that moves. -/
def parent (path : Path) : Path :=
  ⟨path.origin, (withoutLast path.parts.reverse).reverse⟩

/-! ## Places -/

/-- The places that steps pass, whether there is anything at them or not. -/
def placesFrom (position : Place) : List Step → List Place
  | [] => []
  | step :: rest => step.leadsTo position :: placesFrom (step.leadsTo position) rest

def places (path : Path) : List Place :=
  placesFrom path.origin path.steps

end Path

end PaperFilter
