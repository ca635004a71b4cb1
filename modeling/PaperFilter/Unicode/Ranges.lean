import PaperFilter.Text

/-!
# Classes of characters as ranges

A property of characters is given as its ranges of code points, ends included, in increasing order.
Membership walks the ranges and stops at the first one that begins past the code point.
-/

namespace PaperFilter
namespace Unicode

/-- Ranges of code points, ends included, in increasing order. -/
abbrev Ranges := List (Nat × Nat)

namespace Ranges

def contains : Ranges → Nat → Bool
  | [], _ => false
  | (first, last) :: rest, n =>
      if n < first then false
      else if n ≤ last then true
      else contains rest n

/-- Each range is non-empty, begins at `start` or later, and ends before the next one begins. -/
def isIncreasingFrom (start : Nat) : Ranges → Bool
  | [] => true
  | (first, last) :: rest =>
      decide (start ≤ first ∧ first ≤ last) && isIncreasingFrom (last + 1) rest

def isIncreasing (ranges : Ranges) : Bool :=
  isIncreasingFrom 0 ranges

theorem contains_of_lt {ranges : Ranges} {start n : Nat}
    (h : isIncreasingFrom start ranges = true) (lt : n < start) : contains ranges n = false := by
  cases ranges with
  | nil => rfl
  | cons range rest =>
      simp only [isIncreasingFrom, Bool.and_eq_true, decide_eq_true_eq] at h
      exact if_pos (Nat.lt_of_lt_of_le lt h.1.1)

theorem contains_iff_of_increasingFrom {ranges : Ranges} {start n : Nat}
    (h : isIncreasingFrom start ranges = true) :
    contains ranges n = true ↔ ∃ range ∈ ranges, range.1 ≤ n ∧ n ≤ range.2 := by
  induction ranges generalizing start with
  | nil => simp [contains]
  | cons range rest ih =>
      simp only [isIncreasingFrom, Bool.and_eq_true, decide_eq_true_eq] at h
      simp only [List.mem_cons, exists_eq_or_imp]
      rw [← ih h.2, contains]
      split
      · next lt =>
          have behind : n < range.2 + 1 :=
            Nat.lt_succ_of_le (Nat.le_trans (Nat.le_of_lt lt) h.1.2)
          rw [contains_of_lt h.2 behind]
          exact ⟨nofun, fun
            | .inl here => absurd here.1 (Nat.not_le_of_lt lt)
            | .inr there => there⟩
      · split
        · next ge le => exact ⟨fun _ => .inl ⟨Nat.le_of_not_lt ge, le⟩, fun _ => rfl⟩
        · next gt => exact ⟨.inr, fun found => found.resolve_left fun here => gt here.2⟩

/-- The walk misses no range. -/
theorem contains_iff {ranges : Ranges} {n : Nat} (h : ranges.isIncreasing = true) :
    ranges.contains n = true ↔ ∃ range ∈ ranges, range.1 ≤ n ∧ n ≤ range.2 :=
  contains_iff_of_increasingFrom h

/-- No code point lies in two classes whose ranges lie apart. -/
theorem contains_eq_false_of_apart {ranges others : Ranges} {n : Nat}
    (hranges : ranges.isIncreasing = true) (hothers : others.isIncreasing = true)
    (hapart : ∀ range ∈ ranges, ∀ other ∈ others, range.2 < other.1 ∨ other.2 < range.1)
    (h : ranges.contains n = true) : others.contains n = false := by
  rcases (contains_iff hranges).mp h with ⟨range, hrange, hlow, hhigh⟩
  apply Bool.eq_false_iff.mpr
  intro hcontra
  rcases (contains_iff hothers).mp hcontra with ⟨other, hother, hlowOther, hhighOther⟩
  have := hapart range hrange other hother
  omega

end Ranges

end Unicode
end PaperFilter
