/-!
# Reading off the front of a list

A reader takes a value off the front of a list and leaves the rest.  The types of its results record
that the rest is shorter, or no longer, than the list, which is why readers that call each other on
what is left come to an end.
-/

namespace PaperFilter

/-- A value read off the front of a list, and the rest of the list, which is shorter. -/
structure Shorter (α : Type) {β : Type} (list : List β) where
  value : α
  rest : List β
  isShorter : rest.length < list.length

/-- A value read off the front of a list, and the rest of the list, which is no longer. -/
structure NoLonger (α : Type) {β : Type} (list : List β) where
  value : α
  rest : List β
  isNoLonger : rest.length ≤ list.length

namespace Shorter

variable {α γ β : Type} {list : List β}

def map (f : α → γ) (found : Shorter α list) : Shorter γ list :=
  ⟨f found.value, found.rest, found.isShorter⟩

/-- A value that the first element alone stands for. -/
def head {x : β} (value : α) : Shorter α (x :: list) :=
  ⟨value, list, Nat.lt_succ_self _⟩

/-- What is read behind the first element. -/
def cons (x : β) (found : Shorter α list) : Shorter α (x :: list) :=
  ⟨found.value, found.rest, Nat.lt_succ_of_lt found.isShorter⟩

/-- What is read behind what was read first. -/
def andThen (first : Shorter α list) (second : Shorter γ first.rest) : Shorter γ list :=
  ⟨second.value, second.rest, Nat.lt_trans second.isShorter first.isShorter⟩

def andMaybe (first : Shorter α list) (second : NoLonger γ first.rest) : Shorter γ list :=
  ⟨second.value, second.rest, Nat.lt_of_le_of_lt second.isNoLonger first.isShorter⟩

def toNoLonger (found : Shorter α list) : NoLonger α list :=
  ⟨found.value, found.rest, Nat.le_of_lt found.isShorter⟩

end Shorter

namespace NoLonger

variable {α γ β : Type} {list : List β}

def map (f : α → γ) (found : NoLonger α list) : NoLonger γ list :=
  ⟨f found.value, found.rest, found.isNoLonger⟩

/-- A value for which no element is read. -/
def nothing (value : α) : NoLonger α list :=
  ⟨value, list, Nat.le_refl _⟩

/-- A value that so many elements stand for. -/
def taking (count : Nat) (value : α) : NoLonger α list :=
  ⟨value, list.drop count, (List.drop_sublist count list).length_le⟩

/-- What is read behind the first element. -/
def cons (x : β) (found : NoLonger α list) : Shorter α (x :: list) :=
  ⟨found.value, found.rest, Nat.lt_succ_of_le found.isNoLonger⟩

/-- What is read behind what was read first. -/
def andThen (first : NoLonger α list) (second : Shorter γ first.rest) : Shorter γ list :=
  ⟨second.value, second.rest, Nat.lt_of_lt_of_le second.isShorter first.isNoLonger⟩

def andMaybe (first : NoLonger α list) (second : NoLonger γ first.rest) : NoLonger γ list :=
  ⟨second.value, second.rest, Nat.le_trans second.isNoLonger first.isNoLonger⟩

/-- The first element of the rest. -/
def next? : NoLonger α list → Option (Shorter β list)
  | ⟨_, [], _⟩ => none
  | ⟨_, x :: rest, h⟩ => some ⟨x, rest, h⟩

end NoLonger

/-! ## Readers of any list -/

/-- The longest beginning in a class of elements, and the rest. -/
def readWhile {β : Type} (p : β → Bool) (list : List β) : NoLonger (List β) list :=
  ⟨list.takeWhile p, list.dropWhile p, (List.dropWhile_sublist p).length_le⟩

/-- The first element, if it is the one that is asked for. -/
def readThis {β : Type} [DecidableEq β] (x : β) : (list : List β) → Option (Shorter Unit list)
  | [] => none
  | y :: _ => if y = x then some (.head ()) else none

/-- The first element behind the longest beginning in a class of elements. -/
def readPast {β : Type} (p : β → Bool) (list : List β) : Option (Shorter β list) :=
  (readWhile p list).next?

/-- The first element behind such a beginning, if it is the one that is asked for. -/
def readThisPast {β : Type} [DecidableEq β] (p : β → Bool) (x : β) (list : List β) :
    Option (Shorter Unit list) := do
  let skipped := readWhile p list
  return skipped.andThen (← readThis x skipped.rest)

end PaperFilter
