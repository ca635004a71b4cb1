import PaperFilter.Decimal.Shortest

/-!
# What the shortest decimal is

The decimal that stands for a double rounds to it.  It is zero only for zero, as no multiple of a
power of ten that is zero lies near another double.
-/

namespace PaperFilter

theorem powerOfTen_pos (exponent : Nat) : 0 < powerOfTen exponent :=
  Nat.pow_pos (by decide)

namespace Double

variable {x : Double}

theorem reachBelow_lt_quarters (hx : x.isZero = false) : x.reachBelow < x.quarters := by
  have hmantissa : 0 < x.mantissa := Nat.pos_of_ne_zero (of_decide_eq_false hx)
  have hstep : 0 < 2 ^ x.scale := Nat.two_pow_pos x.scale
  have hreach : x.reachBelow ≤ 2 * 2 ^ x.scale := by
    rw [reachBelow]
    split <;> simp only [Nat.shiftLeft_eq] <;> omega
  have hquarters : 4 * 2 ^ x.scale ≤ x.quarters := by
    rw [quarters, units, Nat.shiftLeft_eq]
    exact Nat.mul_le_mul_left 4 (Nat.le_mul_of_pos_left _ hmantissa)
  omega

theorem isNear_zero (hx : x.isZero = false) {denominator : Nat} (h : 0 < denominator) :
    x.isNear 0 denominator = false := by
  have hlow : 0 < (x.quarters - x.reachBelow) * denominator :=
    Nat.mul_pos (Nat.sub_pos_of_lt (reachBelow_lt_quarters hx)) h
  rw [isNear]
  split <;> simp [Nat.not_le_of_gt hlow]

/-- A multiple that is found on a grid rounds to the double. -/
theorem isNear_of_onGrid? {exponent : Int} {digits : Nat} (h : x.onGrid? exponent = some digits) :
    x.isNear (digits * ((4 <<< unitBits) * powerOfTen exponent.toNat))
      (powerOfTen (-exponent).toNat) = true := by
  simp only [onGrid?] at h
  split at h
  · cases h
  · next hlower _ => exact Option.some.inj h ▸ hlower
  · next hupper => exact Option.some.inj h ▸ hupper
  · next hlower hupper =>
      split at h
      · exact Option.some.inj h ▸ hlower
      · split at h
        · exact Option.some.inj h ▸ hupper
        · split at h
          · exact Option.some.inj h ▸ hlower
          · exact Option.some.inj h ▸ hupper

theorem onGrid?_ne_zero (hx : x.isZero = false) (exponent : Int) : x.onGrid? exponent ≠ some 0 := by
  intro h
  have hnear := isNear_of_onGrid? h
  rw [Nat.zero_mul, isNear_zero hx (powerOfTen_pos _)] at hnear
  cases hnear

theorem shortestFrom_exponent (hx : x.isZero = false) {count : Nat}
    (h : (x.shortestFrom count).digits = 0) : (x.shortestFrom count).exponent = 0 := by
  induction count with
  | zero => rfl
  | succ count ih =>
      simp only [shortestFrom] at h ⊢
      split at h
      · next hgrid =>
          cases h
          exact absurd hgrid (onGrid?_ne_zero hx _)
      · exact ih h

/-- Zero digits come without an exponent. -/
theorem shortest_exponent (h : x.shortest.digits = 0) : x.shortest.exponent = 0 := by
  rw [shortest] at h ⊢
  split at h
  · next hx => rw [if_pos hx]
  · next hx =>
      rw [if_neg hx]
      exact shortestFrom_exponent (Bool.eq_false_iff.mpr hx) h

end Double
end PaperFilter
