import PaperFilter.Outline
import PaperFilter.Query.Error
import PaperFilter.Query.Wildcard

/-!
# Trees of a query

A tree combines words and quoted phrases.  Parentheses leave no trace of their own in it: a group is
the tree of what it encloses, and nested conjunctions or disjunctions are spliced together when a
tree is built by `Node.conjunction` and `Node.disjunction`.
-/

namespace PaperFilter

/-- A word as it is written. -/
structure Term where
  text : Text
deriving Repr, DecidableEq

namespace Term

def wildcard (term : Term) : Wildcard :=
  Wildcard.ofWord term.text

/-- The term of a word, which may be refused if it asks for a pattern. -/
def ofText [PatternCompiler] (text : Text) : Except QueryError Term :=
  match (Wildcard.ofWord text).refusal? with
  | none => .ok ⟨text⟩
  | some reason => .error (.invalidWildcard text reason)

end Term

inductive Node where
  | and (children : List Node)
  | or (children : List Node)
  | not (child : Node)
  | phrase (words : List Text)
  | word (term : Term)
deriving Repr

namespace Node

/-! ## Equality -/

mutual

def decideEq : (left right : Node) → Decidable (left = right)
  | .and left, .and right =>
      match decideEqList left right with
      | .isTrue h => .isTrue (by rw [h])
      | .isFalse h => .isFalse fun same => h (Node.and.inj same)
  | .or left, .or right =>
      match decideEqList left right with
      | .isTrue h => .isTrue (by rw [h])
      | .isFalse h => .isFalse fun same => h (Node.or.inj same)
  | .not left, .not right =>
      match decideEq left right with
      | .isTrue h => .isTrue (by rw [h])
      | .isFalse h => .isFalse fun same => h (Node.not.inj same)
  | .phrase left, .phrase right =>
      decidable_of_iff (left = right) ⟨congrArg Node.phrase, Node.phrase.inj⟩
  | .word left, .word right =>
      decidable_of_iff (left = right) ⟨congrArg Node.word, Node.word.inj⟩
  | .and _, .or _ | .and _, .not _ | .and _, .phrase _ | .and _, .word _
  | .or _, .and _ | .or _, .not _ | .or _, .phrase _ | .or _, .word _
  | .not _, .and _ | .not _, .or _ | .not _, .phrase _ | .not _, .word _
  | .phrase _, .and _ | .phrase _, .or _ | .phrase _, .not _ | .phrase _, .word _
  | .word _, .and _ | .word _, .or _ | .word _, .not _ | .word _, .phrase _ =>
      .isFalse nofun

def decideEqList : (left right : List Node) → Decidable (left = right)
  | [], [] => .isTrue rfl
  | [], _ :: _ => .isFalse nofun
  | _ :: _, [] => .isFalse nofun
  | left :: lefts, right :: rights =>
      match decideEq left right, decideEqList lefts rights with
      | .isTrue h, .isTrue hs => .isTrue (by rw [h, hs])
      | .isFalse h, _ => .isFalse fun same => h (List.cons.inj same).1
      | _, .isFalse hs => .isFalse fun same => hs (List.cons.inj same).2

end

instance : DecidableEq Node := decideEq

/-! ## Groups -/

def conjuncts : Node → List Node
  | .and children => children
  | other => [other]

def disjuncts : Node → List Node
  | .or children => children
  | other => [other]

/-- All of the children hold.  Conjunctions among them are spliced in, and one child alone needs no
group. -/
def conjunction (children : List Node) : Node :=
  match children.flatMap conjuncts with
  | [only] => only
  | flat => .and flat

/-- One of the children holds.  Disjunctions among them are spliced in, and one child alone needs no
group. -/
def disjunction (children : List Node) : Node :=
  match children.flatMap disjuncts with
  | [only] => only
  | flat => .or flat

/-! ## Size -/

mutual

/-- The number of nodes of a tree. -/
def size : Node → Nat
  | .and children => 1 + totalSize children
  | .or children => 1 + totalSize children
  | .not child => 1 + size child
  | .phrase _ => 1
  | .word _ => 1

def totalSize : List Node → Nat
  | [] => 0
  | child :: rest => size child + totalSize rest

end

/-! ## The canonical form -/

mutual

/-- The canonical form of a tree in front of a suffix: every group in parentheses, every operator
written out. -/
def renderAppend : Node → Text → Text
  | .and children, suffix =>
      '(' :: renderGroupAppend [' ', 'a', 'n', 'd', ' '] children (')' :: suffix)
  | .or children, suffix =>
      '(' :: renderGroupAppend [' ', 'o', 'r', ' '] children (')' :: suffix)
  | .not child, suffix => 'n' :: 'o' :: 't' :: ' ' :: renderAppend child suffix
  | .phrase words, suffix => '"' :: (Text.joinWith [' '] words ++ ('"' :: suffix))
  | .word term, suffix => term.text ++ suffix

def renderGroupAppend (separator : Text) : List Node → Text → Text
  | [], suffix => suffix
  | child :: rest, suffix =>
      renderAppend child
        (if rest.isEmpty then suffix else separator ++ renderGroupAppend separator rest suffix)

end

def render (node : Node) : Text :=
  renderAppend node []

/-! ## The full tree -/

def textOutline (text : Text) : Outline :=
  .leaf (Text.quoted text)

def call (name : String) (parts : List Outline) : Outline :=
  .block (name.toList ++ ['(']) parts [')']

def wildcardOutline : Wildcard → Outline
  | .exact text => call "Exact" [textOutline text]
  | .endsWith ending => call "Suffix" [textOutline ending]
  | .startsWith beginning => call "Prefix" [textOutline beginning]
  | .pattern pieces =>
      call "Pattern" [call "Regex" [textOutline (Wildcard.expression pieces)]]

def termOutline (term : Term) : Outline :=
  .block "Term \x7b".toList
    [.labelled "text: ".toList (textOutline term.text),
      .labelled "matcher: ".toList (wildcardOutline term.wildcard)]
    ['\x7d']

def listOutline (parts : List Outline) : Outline :=
  .block ['['] parts [']']

mutual

/-- Every node of a tree, with how each word is matched. -/
def outline : Node → Outline
  | .and children => call "And" [listOutline (outlines children)]
  | .or children => call "Or" [listOutline (outlines children)]
  | .not child => call "Not" [outline child]
  | .phrase words => call "Phrase" [listOutline (words.map textOutline)]
  | .word term => call "Word" [termOutline term]

def outlines : List Node → List Outline
  | [] => []
  | child :: rest => outline child :: outlines rest

end

end Node

end PaperFilter
