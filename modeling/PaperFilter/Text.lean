import PaperFilter.Front

/-!
# Texts

A text is a sequence of Unicode characters.  Positions in a text, and the lengths of its parts,
count characters.
-/

namespace PaperFilter

abbrev Text := List Char

namespace Text

/-- Put a character in front of the first of a list of texts. -/
def consHead (c : Char) : List Text → List Text
  | [] => [[c]]
  | first :: rest => (c :: first) :: rest

/-- The parts of a text between the occurrences of a separator; there is always at least one. -/
def splitOn (separator : Char) : Text → List Text
  | [] => [[]]
  | c :: rest =>
      if c = separator then [] :: splitOn separator rest
      else consHead c (splitOn separator rest)

/-- The maximal stretches of characters of a class, in order. -/
def runs (inClass : Char → Bool) : Text → List Text
  | [] => []
  | c :: rest =>
      if inClass c then
        if rest.head?.any inClass then consHead c (runs inClass rest)
        else [c] :: runs inClass rest
      else runs inClass rest

/-- Change each maximal stretch of characters of a class, and keep all else. -/
def mapRuns (inClass : Char → Bool) (change : Text → Text) : Text → Text
  | [] => []
  | c :: rest =>
      if inClass c then
        let ⟨others, behind, _⟩ := readWhile inClass rest
        change (c :: others) ++ mapRuns inClass change behind
      else c :: mapRuns inClass change rest
termination_by text => text.length

/-- Texts in order, with a separator between each two. -/
def joinWith (separator : Text) : List Text → Text
  | [] => []
  | [last] => last
  | first :: second :: rest => first ++ separator ++ joinWith separator (second :: rest)

/-- One text occurs in another as a contiguous stretch. -/
def occursIn (part : Text) : Text → Bool
  | [] => part.isEmpty
  | c :: rest => part.isPrefixOf (c :: rest) || occursIn part rest

/-- The suffixes of a text, from the whole text down to the empty one. -/
def suffixes : Text → List Text
  | [] => [[]]
  | c :: rest => (c :: rest) :: suffixes rest

/-- Decimal digits, with no leading zero. -/
def ofNat (n : Nat) : Text :=
  Nat.toDigits 10 n

def ofInt : Int → Text
  | .ofNat n => ofNat n
  | .negSucc n => '-' :: ofNat (n + 1)

theorem splitOn_ne_nil (separator : Char) (text : Text) : splitOn separator text ≠ [] := by
  cases text with
  | nil => simp [splitOn]
  | cons c rest =>
      unfold splitOn
      split
      · simp
      · cases splitOn separator rest <;> simp [consHead]

/-- Joining the parts with the separator gives the text back. -/
theorem joinWith_splitOn (separator : Char) (text : Text) :
    joinWith [separator] (splitOn separator text) = text := by
  induction text with
  | nil => rfl
  | cons c rest ih =>
      unfold splitOn
      cases h : splitOn separator rest with
      | nil => exact absurd h (splitOn_ne_nil separator rest)
      | cons first more =>
          rw [h] at ih
          split
          · next hc => simp [joinWith, ih, hc]
          · cases more with
            | nil => simpa [consHead, joinWith] using ih
            | cons second others => simpa [consHead, joinWith] using ih

end Text

end PaperFilter
