import PaperFilter.Json.Reader
import PaperFilter.Json.Writer
import PaperFilter.Proofs.Decimal.Shortest
import PaperFilter.Proofs.Front
import PaperFilter.Proofs.Text.Digits

/-!
# Written numbers are read back

A number is written as a numeral: digits, possibly a fraction, possibly an exponent.  Reading takes
the numeral as a whole off the front of a text and then finds the number that it stands for.  That
is the number itself if it is an integer in range; for a double it depends on how its digits are
rounded.
-/

namespace PaperFilter
namespace Json

/-! ## Digits -/

/-- Decimal digits, at least one. -/
structure AreDigits (text : Text) : Prop where
  ne_nil : text ≠ []
  isDigit : ∀ c ∈ text, c.isDigit = true

theorem areDigits_ofNat (n : Nat) : AreDigits (Text.ofNat n) :=
  ⟨Text.ofNat_ne_nil n, fun _ => Text.isDigit_of_mem_ofNat⟩

theorem areDigits_zero : AreDigits ['0'] :=
  ⟨List.cons_ne_nil _ _, fun _ hc => List.mem_singleton.mp hc ▸ rfl⟩

theorem isDigit_of_mem_zeros {n : Nat} {c : Char} (h : c ∈ zeros n) : c.isDigit = true :=
  List.eq_of_mem_replicate h ▸ rfl

theorem AreDigits.zeros_append {digits : Text} (h : AreDigits digits) (n : Nat) :
    AreDigits (zeros n ++ digits) :=
  ⟨List.append_ne_nil_of_right_ne_nil _ h.ne_nil,
    fun c hc => (List.mem_append.mp hc).elim isDigit_of_mem_zeros (h.isDigit c)⟩

theorem AreDigits.append_zeros {digits : Text} (h : AreDigits digits) (n : Nat) :
    AreDigits (digits ++ zeros n) :=
  ⟨List.append_ne_nil_of_left_ne_nil h.ne_nil _,
    fun c hc => (List.mem_append.mp hc).elim (h.isDigit c) isDigit_of_mem_zeros⟩

theorem AreDigits.take {digits : Text} (h : AreDigits digits) {n : Nat} (hn : 0 < n) :
    AreDigits (digits.take n) := by
  refine ⟨fun hnil => ?_, fun c hc => h.isDigit c (List.mem_of_mem_take hc)⟩
  rcases List.take_eq_nil_iff.mp hnil with hn' | hdigits
  · omega
  · exact h.ne_nil hdigits

theorem AreDigits.drop {digits : Text} (h : AreDigits digits) {n : Nat}
    (hn : n < digits.length) : AreDigits (digits.drop n) := by
  refine ⟨fun hnil => ?_, fun c hc => h.isDigit c (List.mem_of_mem_drop hc)⟩
  have hlength := List.drop_eq_nil_iff.mp hnil
  omega

/-! ## Parts of a numeral -/

/-- No digit stands at the front of a text. -/
def EndsDigits (text : Text) : Prop :=
  ∀ c, text.head? = some c → c.isDigit = false

/-- A text does not begin with anything that a numeral could go on with. -/
def EndsNumeral (text : Text) : Prop :=
  ∀ c, text.head? = some c → c.isDigit = false ∧ c ≠ '.' ∧ c ≠ 'e' ∧ c ≠ 'E'

theorem EndsNumeral.endsDigits {text : Text} (h : EndsNumeral text) : EndsDigits text :=
  fun c hc => (h c hc).1

theorem endsDigits_cons {c : Char} (h : c.isDigit = false) (behind : Text) :
    EndsDigits (c :: behind) :=
  fun _ hhead => Option.some.inj hhead ▸ h

theorem readDigits_append {digits rest : Text} (hdigits : AreDigits digits)
    (hrest : EndsDigits rest) :
    (readDigits (digits ++ rest)).map Shorter.parts = some (digits, rest) := by
  cases digits with
  | nil => exact absurd rfl hdigits.ne_nil
  | cons c digits =>
      rw [List.cons_append, readDigits, if_pos (hdigits.isDigit c List.mem_cons_self),
        readWhile_append (fun d hd => hdigits.isDigit d (List.mem_cons_of_mem c hd)) hrest]
      rfl

theorem readWhole_append {whole rest : Text} (hdigits : AreDigits whole)
    (hzero : whole.head? = some '0' → whole = ['0']) (hrest : EndsDigits rest) :
    (readWhole (whole ++ rest)).map Shorter.parts = some (whole, rest) := by
  by_cases hhead : whole.head? = some '0'
  · have hnext : rest.head?.any Char.isDigit = false := by
      cases hcases : rest.head? with
      | none => rfl
      | some d => exact hrest d hcases
    rw [hzero hhead, List.singleton_append, readWhole, if_neg (Bool.eq_false_iff.mp hnext)]
    rfl
  · rw [← readDigits_append hdigits hrest]
    cases whole with
    | nil => exact absurd rfl hdigits.ne_nil
    | cons c whole =>
        rw [List.cons_append, readWhole]
        exact fun _ heq => hhead (congrArg some (List.cons.inj heq).1)

def fractionText : Option Text → Text
  | none => []
  | some digits => '.' :: digits

def exponentText : Option Int → Text
  | none => []
  | some exponent => 'e' :: signedExponent exponent

theorem readFraction_append {fraction : Option Text} {rest : Text}
    (hdigits : ∀ digits ∈ fraction, AreDigits digits) (hrest : EndsDigits rest)
    (hpoint : rest.head? ≠ some '.') :
    (readFraction (fractionText fraction ++ rest)).map NoLonger.parts = some (fraction, rest) := by
  cases fraction with
  | none =>
      rw [fractionText, List.nil_append, readFraction]
      · rfl
      · rintro others rfl
        exact hpoint rfl
  | some digits =>
      obtain ⟨_, hread⟩ := exists_of_map_parts (readDigits_append (hdigits digits rfl) hrest)
      rw [fractionText, List.cons_append, readFraction, hread]
      rfl

theorem readSigned_append (exponent : Int) {rest : Text} (hrest : EndsDigits rest) :
    (readSigned (signedExponent exponent ++ rest)).map Shorter.parts = some (exponent, rest) := by
  obtain ⟨_, hread⟩ :=
    exists_of_map_parts (readDigits_append (areDigits_ofNat exponent.natAbs) hrest)
  by_cases hnegative : exponent < 0
  · have hvalue : Int.negOfNat (Text.natural 10 (Text.ofNat exponent.natAbs)) = exponent := by
      rw [Text.natural_ofNat, Int.negOfNat_eq, Int.ofNat_eq_natCast]
      omega
    rw [signedExponent, if_pos hnegative, List.cons_append, readSigned, hread]
    exact congrArg (fun value => some (value, rest)) hvalue
  · have hvalue : Int.ofNat (Text.natural 10 (Text.ofNat exponent.natAbs)) = exponent := by
      rw [Text.natural_ofNat, Int.ofNat_eq_natCast]
      omega
    rw [signedExponent, if_neg hnegative, List.cons_append, readSigned, hread]
    exact congrArg (fun value => some (value, rest)) hvalue

theorem readExponent_append (exponent : Option Int) {rest : Text} (hrest : EndsNumeral rest) :
    (readExponent (exponentText exponent ++ rest)).map NoLonger.parts = some (exponent, rest) := by
  cases exponent with
  | none =>
      cases rest with
      | nil => rfl
      | cons c rest =>
          have ⟨_, _, hsmall, hcapital⟩ := hrest c rfl
          rw [exponentText, List.nil_append, readExponent, if_neg (by simp [hsmall, hcapital])]
          rfl
  | some exponent =>
      obtain ⟨_, hread⟩ := exists_of_map_parts (readSigned_append exponent hrest.endsDigits)
      rw [exponentText, List.cons_append, readExponent, if_pos (by decide), hread]
      rfl

namespace Numeral

/-! ## Whole numerals -/

/-- How a numeral is written behind its sign. -/
def unsigned (numeral : Numeral) : Text :=
  numeral.whole ++ (fractionText numeral.fraction ++ exponentText numeral.exponent)

def text (numeral : Numeral) : Text :=
  if numeral.negative then '-' :: numeral.unsigned else numeral.unsigned

/-- A numeral that the grammar allows: there are digits where digits have to be, and no zero in
front of other digits. -/
structure IsStandard (numeral : Numeral) : Prop where
  whole_digits : AreDigits numeral.whole
  no_leading_zero : numeral.whole.head? = some '0' → numeral.whole = ['0']
  fraction_digits : ∀ digits ∈ numeral.fraction, AreDigits digits

/-- A standard numeral begins with a digit behind its sign. -/
theorem IsStandard.exists_unsigned_eq_cons {numeral : Numeral} (h : numeral.IsStandard) :
    ∃ c behind, c.isDigit = true ∧ numeral.unsigned = c :: behind := by
  cases hwhole : numeral.whole with
  | nil => exact absurd hwhole h.whole_digits.ne_nil
  | cons c others =>
      refine ⟨c, others ++ (fractionText numeral.fraction ++ exponentText numeral.exponent),
        h.whole_digits.isDigit c (hwhole ▸ List.mem_cons_self), ?_⟩
      rw [unsigned, hwhole, List.cons_append]

end Numeral

variable {numeral : Numeral} {rest : Text}

/-- What is read behind the sign of a numeral. -/
theorem readUnsigned_append (h : numeral.IsStandard) (hrest : EndsNumeral rest) :
    (readUnsigned numeral.negative (numeral.unsigned ++ rest)).map Shorter.parts =
      numeral.value?.map fun value => (value, rest) := by
  have hexponent : EndsDigits (exponentText numeral.exponent ++ rest) ∧
      (exponentText numeral.exponent ++ rest).head? ≠ some '.' := by
    cases numeral.exponent with
    | none => exact ⟨hrest.endsDigits, fun hhead => (hrest '.' hhead).2.1 rfl⟩
    | some exponent => exact ⟨endsDigits_cons rfl _, by simp [exponentText]⟩
  have hfraction : EndsDigits (fractionText numeral.fraction ++
      (exponentText numeral.exponent ++ rest)) := by
    cases numeral.fraction with
    | none => exact hexponent.1
    | some digits => exact endsDigits_cons rfl _
  obtain ⟨_, hwhole⟩ := exists_of_map_parts
    (readWhole_append h.whole_digits h.no_leading_zero hfraction)
  obtain ⟨_, hread⟩ := exists_of_map_noLonger_parts
    (readFraction_append h.fraction_digits hexponent.1 hexponent.2)
  obtain ⟨_, hread'⟩ := exists_of_map_noLonger_parts (readExponent_append numeral.exponent hrest)
  rw [Numeral.unsigned, List.append_assoc, List.append_assoc, readUnsigned, hwhole]
  simp only [Option.bind_eq_bind, Option.bind_some, hread, hread']
  cases numeral.value? <;> rfl

/-- A numeral is read as a whole, as the number that it stands for. -/
theorem readNumber_append (h : numeral.IsStandard) (hrest : EndsNumeral rest) :
    (readNumber (numeral.text ++ rest)).map Shorter.parts =
      numeral.value?.map fun value => (value, rest) := by
  have hread := readUnsigned_append h hrest
  rw [Numeral.text]
  cases hnegative : numeral.negative with
  | true =>
      rw [hnegative] at hread
      rw [if_pos rfl, List.cons_append, readNumber, ← hread]
      cases readUnsigned true (numeral.unsigned ++ rest) <;> rfl
  | false =>
      obtain ⟨c, behind, hc, hunsigned⟩ := h.exists_unsigned_eq_cons
      rw [hnegative] at hread
      rw [if_neg Bool.false_ne_true, ← hread, hunsigned, List.cons_append, readNumber]
      -- A digit is no sign.
      intro others heq
      rw [(List.cons.inj heq).1] at hc
      cases hc

/-! ## Numbers as numerals -/

theorem Numeral.isStandard_of_fraction (negative : Bool) {whole fraction : Text}
    (hwhole : AreDigits whole) (hzero : whole.head? = some '0' → whole = ['0'])
    (hfraction : AreDigits fraction) (exponent : Option Int) :
    Numeral.IsStandard ⟨negative, whole, some fraction, exponent⟩ where
  whole_digits := hwhole
  no_leading_zero := hzero
  fraction_digits := fun _ hdigits => Option.some.inj hdigits ▸ hfraction

/-- A positional decimal is a numeral with a fraction.  If its digits are a zero, that stands
directly in front of the point or behind it. -/
theorem exists_numeral_positional (negative : Bool) {digits : Text} (hdigits : AreDigits digits)
    {point : Int} (hzero : digits.head? = some '0' → digits = ['0'] ∧ point ≤ 1) :
    ∃ numeral : Numeral, numeral.IsStandard ∧ numeral.negative = negative ∧
      numeral.unsigned = positional digits point := by
  rw [positional]
  split
  · refine ⟨⟨negative, ['0'], some (zeros (-point).toNat ++ digits), none⟩, ?_, rfl, ?_⟩
    · exact Numeral.isStandard_of_fraction negative areDigits_zero (fun _ => rfl)
        (hdigits.zeros_append _) none
    · simp [Numeral.unsigned, fractionText, exponentText]
  · next hpositive =>
      split
      · next hinside =>
          refine ⟨⟨negative, digits.take point.toNat, some (digits.drop point.toNat), none⟩, ?_,
            rfl, ?_⟩
          · refine Numeral.isStandard_of_fraction negative (hdigits.take (by omega)) ?_
              (hdigits.drop hinside) none
            -- A zero is the only digit, so that there is nothing behind the point.
            intro hhead
            rw [List.head?_take, if_neg (by omega)] at hhead
            have hlength : digits.length = 1 := congrArg List.length (hzero hhead).1
            omega
          · simp [Numeral.unsigned, fractionText, exponentText]
      · next houtside =>
          refine ⟨⟨negative, digits ++ zeros (point.toNat - digits.length), some ['0'], none⟩, ?_,
            rfl, ?_⟩
          · refine Numeral.isStandard_of_fraction negative (hdigits.append_zeros _) ?_
              areDigits_zero none
            intro hhead
            rw [List.head?_append, List.head?_eq_some_head hdigits.ne_nil, Option.some_or,
              ← List.head?_eq_some_head] at hhead
            obtain ⟨hdigits, hpoint⟩ := hzero hhead
            have hnone : point.toNat - digits.length = 0 := by
              rw [hdigits, List.length_singleton]
              omega
            rw [hnone, hdigits]
            rfl
          · simp [Numeral.unsigned, fractionText, exponentText]

/-- A scientific decimal is a numeral with an exponent. -/
theorem exists_numeral_scientific (negative : Bool) {digits : Text} (hdigits : AreDigits digits)
    (exponent : Int) :
    ∃ numeral : Numeral, numeral.IsStandard ∧ numeral.negative = negative ∧
      numeral.unsigned = scientific digits exponent := by
  match digits, hdigits with
  | [], hdigits => exact absurd rfl hdigits.ne_nil
  | [only], hdigits =>
      refine ⟨⟨negative, [only], none, some exponent⟩, ⟨hdigits, fun hhead => ?_, nofun⟩, rfl, rfl⟩
      rw [Option.some.inj hhead]
  | first :: second :: others, hdigits =>
      refine ⟨⟨negative, [first], some (second :: others), some exponent⟩, ?_, rfl, rfl⟩
      refine Numeral.isStandard_of_fraction negative (hdigits.take Nat.one_pos)
        (fun hhead => ?_) (hdigits.drop (Nat.one_lt_succ_succ _)) _
      exact congrArg (· :: []) (Option.some.inj hhead)

theorem exists_numeral_magnitude (negative : Bool) (x : Double) :
    ∃ numeral : Numeral, numeral.IsStandard ∧ numeral.negative = negative ∧
      numeral.unsigned = writeMagnitude x := by
  rw [writeMagnitude]
  split
  · exact ⟨⟨negative, ['0'], some ['0'], none⟩,
      Numeral.isStandard_of_fraction negative areDigits_zero (fun _ => rfl) areDigits_zero none,
      rfl, rfl⟩
  · have hdigits := areDigits_ofNat x.shortest.digits
    dsimp only
    split
    · refine exists_numeral_positional negative hdigits fun hhead => ?_
      have hzero := Text.eq_zero_of_head_ofNat hhead
      rw [hzero, Double.shortest_exponent hzero]
      exact ⟨rfl, by decide⟩
    · exact exists_numeral_scientific negative hdigits _

/-- The numeral of an integer. -/
def integerNumeral (value : Int) : Numeral :=
  ⟨decide (value < 0), Text.ofNat value.natAbs, none, none⟩

theorem isStandard_integerNumeral (value : Int) : (integerNumeral value).IsStandard where
  whole_digits := areDigits_ofNat value.natAbs
  no_leading_zero := fun hhead => by
    rw [integerNumeral, Text.eq_zero_of_head_ofNat hhead]
    rfl
  fraction_digits := nofun

theorem text_integerNumeral (value : Int) :
    (integerNumeral value).text = writeNumber (.integer value) := by
  cases value with
  | ofNat n =>
      rw [Numeral.text, integerNumeral, if_neg (by simp)]
      exact List.append_nil _
  | negSucc n =>
      rw [Numeral.text, integerNumeral, if_pos (by simp)]
      exact congrArg (List.cons '-') (List.append_nil _)

/-- Every number is written as a numeral. -/
theorem exists_numeral (number : Number) :
    ∃ numeral : Numeral, numeral.IsStandard ∧ numeral.text = writeNumber number := by
  cases number with
  | integer value => exact ⟨_, isStandard_integerNumeral value, text_integerNumeral value⟩
  | double negative magnitude =>
      obtain ⟨numeral, hstandard, hnegative, hunsigned⟩ :=
        exists_numeral_magnitude negative magnitude
      refine ⟨numeral, hstandard, ?_⟩
      rw [Numeral.text, hnegative, hunsigned]
      cases negative <;> rfl

end Json

/-! ## Reading a number back -/

namespace Number

/-- What is read where a number was written. -/
def reread? (number : Number) : Option Number :=
  (Json.readNumber (Json.writeNumber number)).map Shorter.value

/-- The integers that are read as integers. -/
def InRange : Number → Prop
  | .integer value => -(Json.Numeral.maxNegated : Int) ≤ value ∧ value ≤ Json.Numeral.maxNatural
  | .double _ _ => True

/-- A number is read back as what its numeral stands for. -/
theorem reread?_eq_value? {numeral : Json.Numeral} {number : Number} (h : numeral.IsStandard)
    (htext : numeral.text = Json.writeNumber number) : number.reread? = numeral.value? := by
  have hread := Json.readNumber_append h (show Json.EndsNumeral [] from nofun)
  rw [List.append_nil, htext] at hread
  have hvalue := congrArg (Option.map Prod.fst) hread
  rw [Option.map_map, Option.map_map] at hvalue
  exact hvalue.trans Option.map_id_apply

/-- An integer in range is read back as itself. -/
theorem reread?_integer {value : Int} (h : InRange (.integer value)) :
    reread? (.integer value) = some (.integer value) := by
  have hinteger : (Json.integerNumeral value).integer? = some value := by
    obtain ⟨hleast, hgreatest⟩ := h
    simp only [Json.Numeral.integer?, Json.integerNumeral, Text.natural_ofNat, Option.isSome_none,
      Bool.or_self, Bool.false_eq_true, if_false, decide_eq_true_eq]
    split
    · next hnegative =>
        rw [if_pos (by simp; omega)]
        exact congrArg some (by omega)
    · next hnonnegative =>
        rw [if_pos (by omega)]
        exact congrArg some (by omega)
  rw [reread?_eq_value? (Json.isStandard_integerNumeral value) (Json.text_integerNumeral value),
    Json.Numeral.value?, hinteger]

end Number

namespace Json

/-- A written number is read as a whole, whatever stands behind it that is no part of a numeral. -/
theorem readNumber_written (number : Number) {rest : Text} (hrest : EndsNumeral rest) :
    (readNumber (writeNumber number ++ rest)).map Shorter.parts =
      number.reread?.map fun value => (value, rest) := by
  obtain ⟨numeral, hstandard, htext⟩ := exists_numeral number
  rw [Number.reread?_eq_value? hstandard htext, ← htext, readNumber_append hstandard hrest]

/-- A written number begins with a digit or with a sign. -/
theorem exists_writeNumber_eq_cons (number : Number) :
    ∃ c behind, (c = '-' ∨ c.isDigit = true) ∧ writeNumber number = c :: behind := by
  obtain ⟨numeral, hstandard, htext⟩ := exists_numeral number
  obtain ⟨c, behind, hc, hunsigned⟩ := hstandard.exists_unsigned_eq_cons
  rw [← htext, Numeral.text, hunsigned]
  split
  · exact ⟨_, _, .inl rfl, rfl⟩
  · exact ⟨c, behind, .inr hc, rfl⟩

/-! ## What is read -/

theorem Numeral.inRange_of_value? {numeral : Numeral} {number : Number}
    (h : numeral.value? = some number) :
    number.InRange := by
  rw [value?] at h
  split at h
  · next value hinteger =>
      cases h
      simp only [integer?] at hinteger
      split at hinteger
      · cases hinteger
      split at hinteger
      · split at hinteger
        · next hbounds =>
            rw [Bool.and_eq_true, decide_eq_true_eq, decide_eq_true_eq] at hbounds
            cases hinteger
            exact ⟨by omega, by omega⟩
        · cases hinteger
      · split at hinteger
        · next hbound =>
            cases hinteger
            exact ⟨by omega, by omega⟩
        · cases hinteger
  · obtain ⟨magnitude, _, rfl⟩ := Option.map_eq_some_iff.mp h
    trivial

/-- Integers that are read are in range. -/
theorem inRange_of_readNumber {text : Text} {found : Shorter Number text}
    (h : readNumber text = some found) : found.value.InRange := by
  have hunsigned {negative : Bool} {text : Text} (found : Shorter Number text)
      (h : readUnsigned negative text = some found) : found.value.InRange := by
    simp only [readUnsigned, Option.bind_eq_bind, Option.bind_eq_some_iff] at h
    obtain ⟨whole, -, fraction, -, exponent, -, value, hvalue, hfound⟩ := h
    cases hfound
    exact Numeral.inRange_of_value? hvalue
  rw [readNumber.eq_def] at h
  split at h
  · obtain ⟨inner, hinner, rfl⟩ := Option.map_eq_some_iff.mp h
    exact hunsigned inner hinner
  · exact hunsigned found h

end Json
end PaperFilter
