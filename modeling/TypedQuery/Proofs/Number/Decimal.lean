import TypedQuery.Number.Reading
import TypedQuery.Proofs.Number.Exact

/-!
# Decimals

A decimal stands for a rational number, and what is read from it is the floating-point number that is
nearest to this rational, of two that are as near the one with the even pattern
(`Number.isNearest_decimalValue`). There is only one such number (`Double.IsNearest.unique`).
Exponents far beyond the range of the format need no power to be computed: below, everything is
nearest to zero, and above, nearest to what overflows to infinity.
-/

set_option autoImplicit false

namespace TypedQuery

open Binary (Format binary64)

namespace Binary.Format

variable {f : Format}

/-- Only one pattern is nearest to a number: of two that are as near, only one can be even, since
with two even ones there would be an odd one between them. -/
theorem IsNearest.unique {b c : Nat} {q : ℚ} (hb : f.IsNearest b q) (hc : f.IsNearest c q) :
    b = c := by
  wlog hle : b ≤ c generalizing b c
  · exact (this hc hb (Nat.le_of_not_le hle)).symm
  by_contra hne
  have htie : |f.magnitude c - q| = |f.magnitude b - q| :=
    le_antisymm (hc.closest b) (hb.closest c)
  obtain ⟨m, rfl⟩ : Even b := hb.even c (Ne.symm hne) htie
  obtain ⟨n, rfl⟩ : Even c := hc.even (m + m) hne htie.symm
  have hlow : f.magnitude (m + m) < f.magnitude (m + m + 1) :=
    f.magnitude_strictMono (Nat.lt_succ_self _)
  have hhigh : f.magnitude (m + m + 1) < f.magnitude (n + n) := f.magnitude_strictMono (by omega)
  have hnearer := hb.closest (m + m + 1)
  rcases abs_eq_abs.mp htie with h | h
  · linarith
  · have hbetween : |f.magnitude (m + m + 1) - q| < q - f.magnitude (m + m) :=
      abs_lt.mpr ⟨by linarith, by linarith⟩
    rw [abs_of_neg (by linarith : f.magnitude (m + m) - q < 0)] at hnearer
    linarith

/-- A number that is less than half of the least magnitude is nearest to zero. -/
theorem IsNearest.eq_zero {b : Nat} {q : ℚ} (h : f.IsNearest b q) (hq : 0 ≤ q)
    (hsmall : 2 * q < f.magnitude 1) : b = 0 := by
  by_contra hb
  have hle : f.magnitude 1 ≤ f.magnitude b :=
    f.magnitude_strictMono.monotone (Nat.one_le_iff_ne_zero.mpr hb)
  have hclosest := h.closest 0
  rw [f.magnitude_zero, zero_sub, abs_neg, abs_of_nonneg hq,
    abs_of_nonneg (by linarith : 0 ≤ f.magnitude b - q)] at hclosest
  linarith

/-- A number that is as great as a magnitude is not nearest to a smaller one. -/
theorem IsNearest.le {b c : Nat} {q : ℚ} (h : f.IsNearest b q) (hgreat : f.magnitude c ≤ q) :
    c ≤ b := by
  by_contra hb
  have hlt : f.magnitude b < f.magnitude c := f.magnitude_strictMono (Nat.lt_of_not_le hb)
  have hclosest := h.closest c
  rw [abs_of_neg (by linarith : f.magnitude b - q < 0),
    abs_of_nonpos (by linarith : f.magnitude c - q ≤ 0)] at hclosest
  linarith

end Binary.Format

/-! ## Rounding -/

/-- A number is nearest to a rational with a sign: its pattern is nearest of all that would be there
without a bound on the exponent, and those beyond the greatest are infinity. -/
def Double.IsNearest (negative : Bool) (q : ℚ) (x : Double) : Prop :=
  ∃ b, binary64.IsNearest b q ∧
    x.bits.toNat = binary64.signPattern negative + min b binary64.infinityBits

namespace Double

/-- There is only one nearest number. -/
theorem IsNearest.unique {negative : Bool} {q : ℚ} {x y : Double} (hx : IsNearest negative q x)
    (hy : IsNearest negative q y) : x = y := by
  obtain ⟨b, hb, hxbits⟩ := hx
  obtain ⟨c, hc, hybits⟩ := hy
  rw [← ofNat_toNat_bits x, ← ofNat_toNat_bits y, hxbits, hybits, hb.unique hc]

/-- A pattern of a sign and a magnitude is one of 64 bits. -/
theorem toNat_ofNat_signPattern (negative : Bool) (b : Nat) :
    (UInt64.ofNat (binary64.signPattern negative + min b binary64.infinityBits)).toNat =
      binary64.signPattern negative + min b binary64.infinityBits := by
  have hsign : binary64.signPattern negative ≤ 2 ^ 63 := by cases negative <;> decide
  have hmagnitude : min b binary64.infinityBits < 2 ^ 63 :=
    (Nat.min_le_right b _).trans_lt (by decide)
  exact UInt64.toNat_ofNat_of_lt' (show _ < 2 ^ 64 by omega)

/-- Rounding a ratio finds the nearest number. -/
theorem isNearest_ofRatio (negative : Bool) (num : Nat) {den : Nat} (hden : 0 < den) :
    IsNearest negative (num / den) (ofRatio negative num den) := by
  obtain ⟨b, hb, hnearest⟩ := binary64.exists_isNearest (by decide) negative num hden
  refine ⟨b, hb, ?_⟩
  rw [ofRatio, hnearest]
  exact toNat_ofNat_signPattern negative b

end Double

/-! ## Reading -/

namespace Number

/-- The least magnitude of all. -/
theorem magnitude_one : binary64.magnitude 1 = ((2 : ℚ) ^ 1074)⁻¹ := by
  have hmantissa : binary64.mantissaOf 1 = 1 := by decide
  have hexponent : binary64.leastExponent + binary64.stepsOf 1 = -(1074 : Nat) := by decide
  rw [Format.magnitude, hmantissa, hexponent, Nat.cast_one, one_mul, zpow_neg, zpow_natCast]

/-- The magnitude from which on everything is infinite. -/
theorem magnitude_infinityBits : binary64.magnitude binary64.infinityBits = (2 : ℚ) ^ 1024 := by
  have hmantissa : binary64.mantissaOf binary64.infinityBits = 2 ^ 52 := by decide
  have hexponent : binary64.leastExponent + binary64.stepsOf binary64.infinityBits =
      (972 : Nat) := by decide
  rw [Format.magnitude, hmantissa, hexponent, zpow_natCast, Nat.cast_pow, Nat.cast_ofNat, ← pow_add]

/-- How many digits a number has bounds it from both sides. -/
theorem lt_pow_length_toDigits (n : Nat) :
    n < 10 ^ (Nat.toDigits 10 n).length ∧ (0 < n → 10 ^ ((Nat.toDigits 10 n).length - 1) ≤ n) := by
  have hlength : 0 < (Nat.toDigits 10 n).length := Nat.length_toDigits_pos
  refine ⟨(Nat.length_toDigits_le_iff (by decide) hlength).mp (Nat.le_refl _), fun hn => ?_⟩
  by_contra hlt
  rcases Nat.eq_zero_or_pos ((Nat.toDigits 10 n).length - 1) with hone | hmore
  · rw [hone] at hlt
    omega
  · have hle := (Nat.length_toDigits_le_iff (b := 10) (n := n) (by decide) hmore).mpr (by omega)
    omega

/-- What is less than this power of ten is less than half of the least magnitude. -/
theorem two_mul_lt_magnitude_one {q : ℚ} (hq : 0 ≤ q) (hsmall : q * 10 ^ 401 < 1) :
    2 * q < binary64.magnitude 1 := by
  have hpowers : (2 : ℚ) * 2 ^ 1074 ≤ 10 ^ 401 := by
    have hnat : 2 * 2 ^ 1074 ≤ 10 ^ 401 := by decide +kernel
    exact_mod_cast hnat
  have htwo : (0 : ℚ) < 2 ^ 1074 := by positivity
  rw [magnitude_one, ← one_div, lt_div_iff₀ htwo]
  calc 2 * q * 2 ^ 1074 = q * (2 * 2 ^ 1074) := by rw [mul_comm 2 q, mul_assoc]
    _ ≤ q * 10 ^ 401 := mul_le_mul_of_nonneg_left hpowers hq
    _ < 1 := hsmall

/-- A decimal that begins far behind the point is less than half of the least magnitude. -/
theorem two_mul_div_lt_magnitude_one {digits places : Nat}
    (h : (Nat.toDigits 10 digits).length + 401 ≤ places) :
    2 * (digits / 10 ^ places : ℚ) < binary64.magnitude 1 := by
  have hplaces : (0 : ℚ) < 10 ^ places := by positivity
  have hdigits : (digits : ℚ) < 10 ^ (Nat.toDigits 10 digits).length := by
    exact_mod_cast (lt_pow_length_toDigits digits).1
  apply two_mul_lt_magnitude_one (by positivity)
  rw [div_mul_eq_mul_div, div_lt_one hplaces]
  calc (digits : ℚ) * 10 ^ 401 < 10 ^ (Nat.toDigits 10 digits).length * 10 ^ 401 :=
        mul_lt_mul_of_pos_right hdigits (by positivity)
    _ = 10 ^ ((Nat.toDigits 10 digits).length + 401) := (pow_add _ _ _).symm
    _ ≤ 10 ^ places := pow_le_pow_right₀ (by norm_num) h

/-- A decimal with many digits before the point is above all finite magnitudes. -/
theorem magnitude_infinityBits_le_div {digits places : Nat} (hpos : 0 < digits)
    (h : places + 401 ≤ (Nat.toDigits 10 digits).length) :
    binary64.magnitude binary64.infinityBits ≤ digits / 10 ^ places := by
  have hdigits : 2 ^ 1024 * 10 ^ places ≤ digits := by
    calc 2 ^ 1024 * 10 ^ places ≤ 10 ^ 400 * 10 ^ places :=
          Nat.mul_le_mul_right _ (by decide +kernel)
      _ = 10 ^ (400 + places) := (Nat.pow_add 10 400 places).symm
      _ ≤ 10 ^ ((Nat.toDigits 10 digits).length - 1) :=
          Nat.pow_le_pow_right (by decide) (by omega)
      _ ≤ digits := (lt_pow_length_toDigits digits).2 hpos
  rw [magnitude_infinityBits, le_div_iff₀ (by positivity)]
  exact_mod_cast hdigits

/-- A decimal is read as the number that is nearest to what it stands for. -/
theorem isNearest_decimalValue (negative : Bool) (digits places : Nat) :
    Double.IsNearest negative (digits / 10 ^ places) (decimalValue negative digits (-places)) := by
  have hden : 0 < 10 ^ places := Nat.pow_pos (by decide)
  have hcast : ((10 ^ places : Nat) : ℚ) = 10 ^ places := by push_cast; rfl
  obtain ⟨b, hb, -⟩ := binary64.exists_isNearest (by decide) negative digits hden
  rw [hcast] at hb
  unfold decimalValue
  simp only [beq_iff_eq, Bool.or_eq_true, decide_eq_true_eq]
  split_ifs with hsmall hgreat
  · -- Too small: nearest to zero.
    have hbound : 2 * (digits / 10 ^ places : ℚ) < binary64.magnitude 1 := by
      rcases hsmall with rfl | hsmall
      · rw [Nat.cast_zero, zero_div, mul_zero, ← binary64.magnitude_zero]
        exact binary64.magnitude_strictMono Nat.zero_lt_one
      · exact two_mul_div_lt_magnitude_one (by omega)
    refine ⟨b, hb, ?_⟩
    rw [hb.eq_zero (by positivity) hbound]
    cases negative <;> decide
  · -- Too great: nearest to what is infinite.
    refine ⟨b, hb, ?_⟩
    rw [Nat.min_eq_right (hb.le (magnitude_infinityBits_le_div (by omega) (by omega)))]
    cases negative <;> decide
  · have hden : 0 < tenTo (- -(places : Int)).toNat := Nat.pow_pos (by decide)
    have hratio := Double.isNearest_ofRatio negative (digits * tenTo (-(places : Int)).toNat) hden
    have hparts : tenTo (-(places : Int)).toNat = 1 ∧
        tenTo (- -(places : Int)).toNat = 10 ^ places := by
      rw [Int.neg_neg, Int.toNat_natCast, Int.toNat_of_nonpos (by omega)]
      exact ⟨rfl, rfl⟩
    rw [hparts.1, hparts.2, Nat.mul_one] at hratio ⊢
    rw [hcast] at hratio
    exact hratio

end Number

end TypedQuery
