import PaperFilter.Text

/-!
# Outlines

An outline is nested text that is shown one part a line: the parts of a block stand between its
opening and its closing, each on lines of its own, indented by four more spaces and followed by a
comma.
-/

namespace PaperFilter

inductive Outline where
  | leaf (text : Text)
  | labelled (label : Text) (part : Outline)
  | block (opening : Text) (parts : List Outline) (closing : Text)

namespace Outline

def indent : Nat → Text → Text
  | 0, suffix => suffix
  | depth + 1, suffix => ' ' :: ' ' :: ' ' :: ' ' :: indent depth suffix

mutual

/-- The lines of an outline at a depth, in front of a suffix. -/
def renderAppend (depth : Nat) : Outline → Text → Text
  | .leaf text, suffix => text ++ suffix
  | .labelled label part, suffix => label ++ renderAppend depth part suffix
  | .block opening parts closing, suffix =>
      if parts.isEmpty then opening ++ (closing ++ suffix)
      else
        opening ++ ('\n' :: renderPartsAppend (depth + 1) parts (indent depth (closing ++ suffix)))

def renderPartsAppend (depth : Nat) : List Outline → Text → Text
  | [], suffix => suffix
  | part :: rest, suffix =>
      indent depth (renderAppend depth part (',' :: '\n' :: renderPartsAppend depth rest suffix))

end

def render (outline : Outline) : Text :=
  renderAppend 0 outline []

end Outline

end PaperFilter
