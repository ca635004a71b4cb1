import Mathlib.Data.List.TakeWhile
import PaperFilter.Unicode.Blank

/-!
# Blanks around a text

Trimming takes blanks off both ends of a text and nothing else, so that a text is its trimmed form
with blanks in front of it and behind it, and only a blank text has nothing left.
-/

namespace PaperFilter

/-- A run of blanks, which may be empty. -/
def AreBlanks (text : Text) : Prop :=
  ∀ c ∈ text, Unicode.isBlank c = true

instance (text : Text) : Decidable (AreBlanks text) :=
  List.decidableBAll (fun c : Char => Unicode.isBlank c = true) text

theorem areBlanks_nil : AreBlanks [] :=
  List.forall_mem_nil _

theorem areBlanks_cons {c : Char} {text : Text} :
    AreBlanks (c :: text) ↔ Unicode.isBlank c = true ∧ AreBlanks text :=
  List.forall_mem_cons

namespace Unicode

/-- The blanks that a text begins with. -/
def leadingBlanks (text : Text) : Text :=
  text.takeWhile isBlank

/-- The blanks that a text ends with, if it holds anything else. -/
def trailingBlanks (text : Text) : Text :=
  ((text.dropWhile isBlank).reverse.takeWhile isBlank).reverse

theorem isBlank_of_mem_leadingBlanks {text : Text} {c : Char} (h : c ∈ leadingBlanks text) :
    isBlank c = true :=
  List.all_eq_true.mp List.all_takeWhile c h

theorem isBlank_of_mem_trailingBlanks {text : Text} {c : Char} (h : c ∈ trailingBlanks text) :
    isBlank c = true :=
  List.all_eq_true.mp List.all_takeWhile c (List.mem_reverse.mp h)

theorem trim_append_trailingBlanks (text : Text) :
    trim text ++ trailingBlanks text = text.dropWhile isBlank := by
  rw [trim, trailingBlanks, ← List.reverse_append, List.takeWhile_append_dropWhile,
    List.reverse_reverse]

theorem leadingBlanks_append_trim (text : Text) :
    leadingBlanks text ++ (trim text ++ trailingBlanks text) = text := by
  rw [trim_append_trailingBlanks, leadingBlanks, List.takeWhile_append_dropWhile]

theorem mem_of_mem_trim {text : Text} {c : Char} (h : c ∈ trim text) : c ∈ text := by
  rw [← leadingBlanks_append_trim text]
  exact List.mem_append_right _ (List.mem_append_left _ h)

theorem trim_eq_nil_iff {text : Text} : trim text = [] ↔ ∀ c ∈ text, isBlank c = true := by
  constructor
  · intro h c hc
    rw [← leadingBlanks_append_trim text, h, List.nil_append] at hc
    rcases List.mem_append.mp hc with hleading | htrailing
    · exact isBlank_of_mem_leadingBlanks hleading
    · exact isBlank_of_mem_trailingBlanks htrailing
  · intro h
    have hnil : text.dropWhile isBlank = [] := List.dropWhile_eq_nil_iff.mpr h
    rw [trim, hnil]
    rfl

end Unicode
end PaperFilter
