import PaperFilter.Text

/-!
# Replacing every match

A text is read from its beginning.  Where a match begins, the longest one there is replaced, and
reading goes on behind it; a character at which no match begins is kept.  So no two replaced parts
overlap, and what becomes of a text is determined.
-/

namespace PaperFilter
namespace Text

/-- A text begins with a match, and with no longer one. -/
structure LongestMatch (isMatch : Text → Prop) (text part behind : Text) : Prop where
  splits : text = part ++ behind
  ne_nil : part ≠ []
  matched : isMatch part
  longest : ∀ other, other <+: text → isMatch other → other.length ≤ part.length

theorem LongestMatch.unique {isMatch : Text → Prop} {text part behind part' behind' : Text}
    (h : LongestMatch isMatch text part behind) (h' : LongestMatch isMatch text part' behind') :
    part = part' ∧ behind = behind' := by
  have hbegins : part <+: text := ⟨behind, h.splits.symm⟩
  have hbegins' : part' <+: text := ⟨behind', h'.splits.symm⟩
  have hlength : part.length = part'.length :=
    Nat.le_antisymm (h'.longest part hbegins h.matched) (h.longest part' hbegins' h'.matched)
  exact List.append_inj (h.splits.symm.trans h'.splits) hlength

/-- What becomes of a text in which the longest matches are replaced, from the first one on. -/
inductive ReplacesAll (isMatch : Text → Prop) (replacement : Text) : Text → Text → Prop where
  | nil : ReplacesAll isMatch replacement [] []
  | keep {c : Char} {rest out : Text} :
      (∀ part, part <+: c :: rest → ¬ isMatch part) → ReplacesAll isMatch replacement rest out →
        ReplacesAll isMatch replacement (c :: rest) (c :: out)
  | replace {text part behind out : Text} :
      LongestMatch isMatch text part behind → ReplacesAll isMatch replacement behind out →
        ReplacesAll isMatch replacement text (replacement ++ out)

namespace ReplacesAll

variable {isMatch : Text → Prop} {replacement text out : Text}

theorem unique {out' : Text} (h : ReplacesAll isMatch replacement text out)
    (h' : ReplacesAll isMatch replacement text out') : out = out' := by
  induction h generalizing out' with
  | nil =>
      cases h' with
      | nil => rfl
      | replace hmatch _ =>
          exact absurd (List.append_eq_nil_iff.mp hmatch.splits.symm).left hmatch.ne_nil
  | keep hnone _ ih =>
      cases h' with
      | keep _ hrest => rw [ih hrest]
      | replace hmatch _ => exact absurd hmatch.matched (hnone _ ⟨_, hmatch.splits.symm⟩)
  | replace hmatch _ ih =>
      cases h' with
      | nil => exact absurd (List.append_eq_nil_iff.mp hmatch.splits.symm).left hmatch.ne_nil
      | keep hnone _ => exact absurd hmatch.matched (hnone _ ⟨_, hmatch.splits.symm⟩)
      | replace hmatch' hbehind =>
          rcases hmatch.unique hmatch' with ⟨rfl, rfl⟩
          rw [ih hbehind]

theorem eq_iff (h : ReplacesAll isMatch replacement text out) (out' : Text) :
    ReplacesAll isMatch replacement text out' ↔ out' = out := by
  constructor
  · intro h'
    exact h'.unique h
  · rintro rfl
    exact h

end ReplacesAll

end Text
end PaperFilter
