import PaperFilter.Proofs.Text.Digits
import PaperFilter.Proofs.Token
import PaperFilter.Proofs.Toml.Strings
import PaperFilter.Toml.Reader

/-!
# Written TOML values are read back

A boolean and a natural number up to the greatest integer of TOML are scalars that are read as a
whole, up to the end of their line, and so is a string in any of its forms.
-/

namespace PaperFilter
namespace Toml

/-!
## Digits
-/

namespace Scalar

theorem isDigits_of_forall {digits : Text} (hne : digits ≠ [])
    (hdigits : ∀ c ∈ digits, c.isDigit = true) : isDigits Char.isDigit digits = true := by
  induction digits with
  | nil => exact absurd rfl hne
  | cons c rest ih =>
      rcases List.forall_mem_cons.mp hdigits with ⟨hc, hrest⟩
      cases rest with
      | nil => exact hc
      | cons d rest =>
          have hd : d ≠ '_' := by
            rintro rfl
            exact absurd (hrest '_' List.mem_cons_self) (by decide)
          rw [isDigits, hc, ih (List.cons_ne_nil d rest) hrest]
          · rfl
          · exact nofun
          · exact fun _ heq => hd (List.cons.inj heq).left

theorem isWhole_ofNat (n : Nat) : isWhole (Text.ofNat n) = true := by
  have hdigits : ∀ c ∈ Text.ofNat n, c.isDigit = true := fun _ => Text.isDigit_of_mem_ofNat
  by_cases hzero : (Text.ofNat n).head? = some '0'
  · rw [Text.eq_zero_of_head_ofNat hzero]
    rfl
  · rw [isWhole]
    · exact isDigits_of_forall (Text.ofNat_ne_nil n) hdigits
    · exact fun heq => hzero (congrArg List.head? heq)
    · exact fun rest heq => hzero (congrArg List.head? heq)

theorem natural_ofNat (n : Nat) : natural 10 (Text.ofNat n) = n := by
  have hplain : (Text.ofNat n).filter (· != '_') = Text.ofNat n := by
    apply List.filter_eq_self.mpr
    intro c hc
    rw [bne_iff_ne]
    rintro rfl
    exact absurd (Text.isDigit_of_mem_ofNat hc) (by decide)
  rw [natural, hplain, Text.natural_ofNat]

theorem ofNat_ne_cons {n : Nat} {c : Char} (h : c.isDigit = false) (front rest : Text) :
    Text.ofNat n ≠ front ++ c :: rest := by
  intro heq
  have hc : c.isDigit = true :=
    Text.isDigit_of_mem_ofNat (heq ▸ List.mem_append_right front List.mem_cons_self)
  rw [h] at hc
  cases hc

theorem integer?_ofNat {n : Nat} (h : (n : Int) ≤ maxInteger) :
    integer? (Text.ofNat n) = some (n : Int) := by
  have hunsigned : unsigned (Text.ofNat n) = (false, Text.ofNat n) := by
    rw [unsigned]
    · exact fun rest => ofNat_ne_cons rfl [] rest
    · exact fun rest => ofNat_ne_cons rfl [] rest
  have hrange : inRange (n : Int) = some (n : Int) := by
    rw [inRange, if_pos]
    have hlow : minInteger ≤ (n : Int) := Int.le_trans (by decide) (Int.natCast_nonneg n)
    simp [hlow, h]
  rw [integer?]
  · rw [hunsigned]
    simp only [isWhole_ofNat, if_true, natural_ofNat, Bool.false_eq_true, if_false, hrange]
  · exact fun rest => ofNat_ne_cons rfl ['0'] rest
  · exact fun rest => ofNat_ne_cons rfl ['0'] rest
  · exact fun rest => ofNat_ne_cons rfl ['0'] rest

theorem value?_ofNat {n : Nat} (h : (n : Int) ≤ maxInteger) :
    value? (Text.ofNat n) = some (.integer n) := by
  have htrue : Text.ofNat n ≠ ['t', 'r', 'u', 'e'] := ofNat_ne_cons rfl [] _
  have hfalse : Text.ofNat n ≠ ['f', 'a', 'l', 's', 'e'] := ofNat_ne_cons rfl [] _
  rw [value?, if_neg htrue, if_neg hfalse, integer?_ofNat h]

theorem isDate_ofNat (n : Nat) : isDate (Text.ofNat n) = false := by
  have hdash : '-' ∉ Text.ofNat n :=
    fun hmem => absurd (Text.isDigit_of_mem_ofNat hmem) (by decide)
  rw [isDate, Text.splitOn_of_not_mem hdash]

end Scalar

/-!
## Scalars
-/

section

variable {word rest : Text} {value : Toml} (hne : word ≠ [])
  (hword : ∀ c ∈ word, isScalarChar c = true)
  (hrest : ∀ c, rest.head? = some c → isScalarChar c = false)
  (hdate : Scalar.isDate word = false) (hvalue : Scalar.value? word = some value)
include hne hword hrest hdate hvalue

theorem readScalar_append :
    (readScalar (word ++ rest)).map Shorter.parts = some (value, rest) := by
  cases word with
  | nil => exact absurd rfl hne
  | cons c word =>
      have hothers := readWhile_append (fun d hd => hword d (List.mem_cons_of_mem c hd)) hrest
      rw [List.cons_append, readScalar]
      generalize readWhile isScalarChar (word ++ rest) = others at hothers ⊢
      subst hothers
      simp only [hdate, Bool.false_eq_true, if_false, hvalue]
      rfl

/-- A scalar begins with none of the marks of a string, an array or an inline table. -/
theorem readValue_scalar (depth : Nat) :
    (readValue depth (word ++ rest)).map Shorter.parts = some (value, rest) := by
  have hscalar := readScalar_append hne hword hrest hdate hvalue
  cases word with
  | nil => exact absurd rfl hne
  | cons c word =>
      have hmark : ∀ mark more, isScalarChar mark = false →
          (c :: word) ++ rest ≠ mark :: more := by
        intro mark more hmark heq
        have hc := hword c List.mem_cons_self
        rw [(List.cons.inj heq).left, hmark] at hc
        cases hc
      rw [readValue]
      · exact hscalar
      · exact fun more => hmark '"' more rfl
      · exact fun more => hmark '\'' more rfl
      · exact fun more => hmark '[' more rfl
      · exact fun more => hmark '\x7b' more rfl

end

/-!
## Values
-/

/-- What a written value is read as. -/
def Plain.value : Plain → Toml
  | .string text => .string text
  | .natural value => .integer value
  | .boolean value => .boolean value

/-- A number is one of the integers that TOML has. -/
def Plain.InRange : Plain → Prop
  | .natural value => (value : Int) ≤ Scalar.maxInteger
  | _ => True

theorem isScalarChar_of_isDigit {c : Char} (h : c.isDigit = true) : isScalarChar c = true := by
  simp [isScalarChar, Char.isAlphanum, h]

theorem readValue_string (depth : Nat) (text rest : Text) :
    (readValue depth (writeString text ++ '\n' :: rest)).map Shorter.parts =
      some (.string text, '\n' :: rest) := by
  have hquote : ('\n' :: rest).head? ≠ some '"' := ne_of_head_eq rfl (by decide)
  have hapostrophe : ('\n' :: rest).head? ≠ some '\'' := ne_of_head_eq rfl (by decide)
  have hread := readString_written hquote hapostrophe text
  rcases exists_writeStringIn (StringForm.choose text) text with ⟨mark, body, hbody, hmark⟩
  rw [writeString, hbody, List.cons_append] at hread ⊢
  obtain ⟨_, hread⟩ := exists_of_map_parts hread
  rcases hmark with rfl | rfl
  · rw [readValue, hread]
    rfl
  · rw [readValue, hread]
    rfl

theorem readValue_written {plain : Plain} (h : plain.InRange) (depth : Nat) (rest : Text) :
    (readValue depth (writePlain plain ++ '\n' :: rest)).map Shorter.parts =
      some (plain.value, '\n' :: rest) := by
  have hfeed : ∀ c, ('\n' :: rest).head? = some c → isScalarChar c = false := by
    intro c hc
    cases hc
    rfl
  cases plain with
  | string text => exact readValue_string depth text rest
  | natural n =>
      exact readValue_scalar (Text.ofNat_ne_nil n)
        (fun c hc => isScalarChar_of_isDigit (Text.isDigit_of_mem_ofNat hc)) hfeed
        (Scalar.isDate_ofNat n) (Scalar.value?_ofNat h) depth
  | boolean value =>
      cases value with
      | true =>
          exact readValue_scalar (List.cons_ne_nil 't' ['r', 'u', 'e'])
            (List.all_eq_true.mp (by decide)) hfeed (by decide) rfl depth
      | false =>
          exact readValue_scalar (List.cons_ne_nil 'f' ['a', 'l', 's', 'e'])
            (List.all_eq_true.mp (by decide)) hfeed (by decide) rfl depth

end Toml
end PaperFilter
