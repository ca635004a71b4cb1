import PaperFilter.Proofs.Json.Numbers

/-!
# Written values hold no controls

Controls stand in JSON only between its marks, where writing puts nothing, and in strings, where
they are escaped.  A written value is therefore a single line, whatever its strings hold.
-/

namespace PaperFilter
namespace Json

/-- No character below U+0020 occurs. -/
def HasNoControls (text : Text) : Prop :=
  ∀ c ∈ text, 0x20 ≤ c.toNat

instance (text : Text) : Decidable (HasNoControls text) :=
  List.decidableBAll (fun c : Char => 0x20 ≤ c.toNat) text

section

variable {text suffix : Text}

theorem HasNoControls.notMem (h : HasNoControls text) {c : Char} (hc : c.toNat < 0x20) :
    c ∉ text := by
  intro hmem
  exact Nat.not_le.mpr hc (h c hmem)

theorem HasNoControls.cons {c : Char} (hc : 0x20 ≤ c.toNat) (h : HasNoControls text) :
    HasNoControls (c :: text) :=
  List.forall_mem_cons.mpr ⟨hc, h⟩

theorem HasNoControls.append (h : HasNoControls text) (hsuffix : HasNoControls suffix) :
    HasNoControls (text ++ suffix) :=
  List.forall_mem_append.mpr ⟨h, hsuffix⟩

/-!
## Strings
-/

theorem hasNoControls_escape (c : Char) : HasNoControls (escape c) := by
  unfold escape
  split
  · next hspecial =>
      rcases Bool.or_eq_true_iff.mp hspecial with hc | hc
      · rw [of_decide_eq_true hc]
        decide
      · rw [of_decide_eq_true hc]
        decide
  · split
    · decide
    split
    · decide
    split
    · decide
    split
    · decide
    split
    · decide
    split
    · next hcontrol =>
        have hdigits : ∀ n < 0x20, HasNoControls
            ['\\', 'u', '0', '0', hexDigit (n / 16), hexDigit (n % 16)] := by
          decide
        exact hdigits c.toNat hcontrol
    · next hplain => exact List.forall_mem_singleton.mpr (Nat.not_lt.mp hplain)

theorem hasNoControls_writeStringAppend (text : Text) (h : HasNoControls suffix) :
    HasNoControls (writeStringAppend text suffix) := by
  apply HasNoControls.cons (by decide)
  apply HasNoControls.append
  · intro d hd
    rcases List.mem_flatMap.mp hd with ⟨c, _, hescape⟩
    exact hasNoControls_escape c d hescape
  · exact h.cons (by decide)

/-!
## Numbers
-/

theorem AreDigits.hasNoControls (h : AreDigits text) : HasNoControls text := by
  intro c hc
  have hdigit := h.isDigit c hc
  rw [Char.isDigit_iff_toNat] at hdigit
  exact Nat.le_trans (by decide) hdigit.left

theorem hasNoControls_fractionText {fraction : Option Text}
    (h : ∀ digits ∈ fraction, AreDigits digits) : HasNoControls (fractionText fraction) := by
  cases fraction with
  | none => decide
  | some digits => exact (h digits rfl).hasNoControls.cons (by decide)

theorem hasNoControls_exponentText (exponent : Option Int) :
    HasNoControls (exponentText exponent) := by
  cases exponent with
  | none => decide
  | some exponent =>
      have hdigits := (areDigits_ofNat exponent.natAbs).hasNoControls
      apply HasNoControls.cons (by decide)
      unfold signedExponent
      split
      · exact hdigits.cons (by decide)
      · exact hdigits.cons (by decide)

theorem Numeral.IsStandard.hasNoControls {numeral : Numeral} (h : numeral.IsStandard) :
    HasNoControls numeral.text := by
  have hunsigned : HasNoControls numeral.unsigned :=
    h.whole_digits.hasNoControls.append ((hasNoControls_fractionText h.fraction_digits).append
      (hasNoControls_exponentText numeral.exponent))
  unfold Numeral.text
  split
  · exact hunsigned.cons (by decide)
  · exact hunsigned

theorem hasNoControls_writeNumber (number : Number) : HasNoControls (writeNumber number) := by
  rcases exists_numeral number with ⟨numeral, hstandard, hnumeral⟩
  rw [← hnumeral]
  exact hstandard.hasNoControls

end

/-!
## Values
-/

mutual

theorem hasNoControls_writeAppend {suffix : Text} (h : HasNoControls suffix) :
    ∀ value : Json, HasNoControls (writeAppend value suffix)
  | .null => (show HasNoControls ['n', 'u', 'l', 'l'] by decide).append h
  | .bool true => (show HasNoControls ['t', 'r', 'u', 'e'] by decide).append h
  | .bool false => (show HasNoControls ['f', 'a', 'l', 's', 'e'] by decide).append h
  | .number value => (hasNoControls_writeNumber value).append h
  | .string text => hasNoControls_writeStringAppend text h
  | .array items => (hasNoControls_writeItemsAppend (h.cons (by decide)) items).cons (by decide)
  | .object members =>
      (hasNoControls_writeMembersAppend (h.cons (by decide)) members).cons (by decide)

theorem hasNoControls_writeItemsAppend {suffix : Text} (h : HasNoControls suffix) :
    ∀ items : List Json, HasNoControls (writeItemsAppend items suffix)
  | [] => h
  | item :: rest => by
      have hrest := (hasNoControls_writeItemsAppend h rest).cons (c := ',') (by decide)
      rw [writeItemsAppend]
      apply hasNoControls_writeAppend
      split
      · exact h
      · exact hrest

theorem hasNoControls_writeMembersAppend {suffix : Text} (h : HasNoControls suffix) :
    ∀ members : List (Text × Json), HasNoControls (writeMembersAppend members suffix)
  | [] => h
  | (key, value) :: rest => by
      have hrest := (hasNoControls_writeMembersAppend h rest).cons (c := ',') (by decide)
      rw [writeMembersAppend]
      apply hasNoControls_writeStringAppend
      apply HasNoControls.cons (by decide)
      apply hasNoControls_writeAppend
      split
      · exact h
      · exact hrest

end

theorem hasNoControls_write (value : Json) : HasNoControls (write value) :=
  hasNoControls_writeAppend (List.forall_mem_nil _) value

end Json
end PaperFilter
