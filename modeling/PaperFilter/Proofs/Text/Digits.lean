import PaperFilter.Text.Digits

/-!
# Decimal digits

The digits that a number is written in are read as the number, and no number but zero begins with a
zero.
-/

namespace PaperFilter
namespace Text

theorem foldl_digitValue {digits : Text} (hdigits : ∀ c ∈ digits, c.isDigit = true) (n : Nat) :
    digits.foldl (fun n c => n * 10 + digitValue c) n = Nat.ofDigitChars 10 digits n := by
  induction digits generalizing n with
  | nil => rfl
  | cons c digits ih =>
      have hc : digitValue c = c.toNat - '0'.toNat := if_pos (hdigits c List.mem_cons_self)
      rw [List.foldl_cons, ih fun d hd => hdigits d (List.mem_cons_of_mem c hd), hc,
        Nat.ofDigitChars_cons, Nat.mul_comm]

theorem isDigit_of_mem_ofNat {n : Nat} {c : Char} (h : c ∈ ofNat n) : c.isDigit = true :=
  Nat.isDigit_of_mem_toDigits (by decide) (by decide) h

theorem ofNat_ne_nil (n : Nat) : ofNat n ≠ [] :=
  Nat.toDigits_ne_nil

theorem natural_ofNat (n : Nat) : natural 10 (ofNat n) = n :=
  (foldl_digitValue (fun _ => isDigit_of_mem_ofNat) 0).trans Nat.ofDigitChars_ten_toDigits

/-- Only zero is written with a zero in front. -/
theorem eq_zero_of_head_ofNat {n : Nat} (h : (ofNat n).head? = some '0') : n = 0 := by
  induction n using Nat.strongRecOn with
  | ind n ih =>
      rw [ofNat, Nat.toDigits_eq_if (by decide)] at h
      split at h
      · exact Nat.digitChar_eq_zero.mp (Option.some.inj h)
      · next hlarge =>
          rw [List.head?_append, List.head?_eq_some_head Nat.toDigits_ne_nil, Option.some_or,
            ← List.head?_eq_some_head] at h
          have hquotient := ih (n / 10) (by omega) h
          omega

end Text

end PaperFilter
