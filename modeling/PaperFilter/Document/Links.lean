import PaperFilter.Unicode.Blank

/-!
# Links in a text

A link is a scheme followed by at least one character that is not blank, and reaches up to the next
blank.
-/

namespace PaperFilter
namespace Link

def schemes : List Text :=
  ["http://".toList, "https://".toList]

/-- A text that is a scheme and then a character that is not blank. -/
def follows (scheme text : Text) : Bool :=
  match scheme.isPrefixOf? text with
  | some (c :: _) => !Unicode.isBlank c
  | _ => false

def begins (text : Text) : Bool :=
  schemes.any fun scheme => follows scheme text

end Link

/-- The links of a text, from left to right; a scheme inside a link begins no other. -/
def links : Text → List Text
  | [] => []
  | c :: rest =>
      if Link.begins (c :: rest) then
        let ⟨others, behind, _⟩ := readWhile (fun d => !Unicode.isBlank d) rest
        (c :: others) :: links behind
      else links rest
termination_by text => text.length

end PaperFilter
