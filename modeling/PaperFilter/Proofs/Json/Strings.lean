import Mathlib.Tactic.IntervalCases
import PaperFilter.Json.Reader
import PaperFilter.Json.Writer
import PaperFilter.Proofs.Front

/-!
# Written strings are read back

Each character of a string is written as itself or as an escape, and reading takes exactly that off
the front of a text.  A written string is therefore read as a whole, whatever stands behind it.
-/

namespace PaperFilter
namespace Json

/-- The escape of a control is read as the control. -/
theorem readEscape_control {n : Nat} (h : n < 0x20) (rest : Text) :
    (readEscape ('u' :: '0' :: '0' :: hexDigit (n / 16) :: hexDigit (n % 16) :: rest)).map
      Shorter.parts = some (Char.ofNat n, rest) := by
  interval_cases n <;> rfl

/-- A character is written as itself, or as an escape that is read as the character. -/
theorem escape_cases (c : Char) :
    (escape c = [c] ∧ c ≠ '"' ∧ c ≠ '\\' ∧ ¬ c.toNat < 0x20) ∨
      ∃ behind, escape c = '\\' :: behind ∧
        ∀ rest, (readEscape (behind ++ rest)).map Shorter.parts = some (c, rest) := by
  rw [escape]
  split
  · next hspecial =>
      rcases Bool.or_eq_true_iff.mp hspecial with hc | hc <;> rw [of_decide_eq_true hc]
      · exact .inr ⟨_, rfl, fun _ => rfl⟩
      · exact .inr ⟨_, rfl, fun _ => rfl⟩
  · next hspecial =>
      split
      · next hc => exact hc ▸ .inr ⟨_, rfl, fun _ => rfl⟩
      split
      · next hc => exact hc ▸ .inr ⟨_, rfl, fun _ => rfl⟩
      split
      · next hc => exact hc ▸ .inr ⟨_, rfl, fun _ => rfl⟩
      split
      · next hc => exact hc ▸ .inr ⟨_, rfl, fun _ => rfl⟩
      split
      · next hc => exact hc ▸ .inr ⟨_, rfl, fun _ => rfl⟩
      split
      · next hcontrol =>
          refine .inr ⟨_, rfl, fun rest => ?_⟩
          have hread := readEscape_control hcontrol rest
          rwa [Char.ofNat_toNat] at hread
      · next hcontrol =>
          rw [Bool.or_eq_true_iff, decide_eq_true_iff, decide_eq_true_iff, not_or] at hspecial
          exact .inl ⟨rfl, hspecial.1, hspecial.2, hcontrol⟩

/-- What a character is written as is read as the character. -/
theorem readString_escape (c : Char) (rest : Text) :
    (readString (escape c ++ rest)).map Shorter.parts =
      (readString rest).map fun found => (c :: found.value, found.rest) := by
  rcases escape_cases c with ⟨hplain, hquote, hbackslash, hcontrol⟩ | ⟨behind, hescape, hread⟩
  · rw [hplain, List.singleton_append, readString, if_neg hquote, if_neg hbackslash,
      if_neg hcontrol]
    cases readString rest <;> rfl
  · obtain ⟨hshorter, hread⟩ := exists_of_map_parts (hread rest)
    rw [hescape, List.cons_append, readString, if_neg (by decide), if_pos rfl, hread]
    simp only [Option.bind_eq_bind, Option.bind_some]
    cases readString rest <;> rfl

/-- A written string is read up to its end. -/
theorem readString_written (text suffix : Text) :
    (readString (text.flatMap escape ++ '"' :: suffix)).map Shorter.parts =
      some (text, suffix) := by
  induction text with
  | nil =>
      rw [List.flatMap_nil, List.nil_append, readString, if_pos rfl]
      rfl
  | cons c text ih =>
      rw [List.flatMap_cons, List.append_assoc, readString_escape]
      obtain ⟨hshorter, hread⟩ := exists_of_map_parts ih
      rw [hread]
      rfl

end Json
end PaperFilter
