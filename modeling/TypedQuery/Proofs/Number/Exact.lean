import TypedQuery.Proofs.Number.Nearest

/-!
# Numbers that a format has

What a pattern stands for is a sign together with the magnitude of the rest of the pattern
(`Format.datum_eq`), so rounding it gives the pattern back (`Double.ofDatum_datum`). For the same
reason a floating-point number that equals an integer is the rounding of that integer, but for the
negative zero (`Double.ofInt_of_compareInt?_eq`).
-/

set_option autoImplicit false

namespace TypedQuery

namespace Binary

open TypedQuery.Number (twoTo)

namespace Format

variable (f : Format)

/-- Whether a pattern has the sign bit. -/
def isNegative (bits : Nat) : Bool := bits / f.signBit % 2 == 1

theorem signBit_eq : f.signBit = 2 ^ f.fractionBits * 2 ^ f.exponentBits := Nat.pow_add 2 _ _

theorem signBit_pos : 0 < f.signBit := Nat.two_pow_pos _

/-- The exponent field of a pattern is that of the pattern without sign. -/
theorem field_mod_signBit (bits : Nat) :
    bits % f.signBit / 2 ^ f.fractionBits = bits / 2 ^ f.fractionBits % 2 ^ f.exponentBits := by
  rw [signBit_eq, Nat.mod_mul_right_div_self]

/-- The fraction of a pattern is that of the pattern without sign. -/
theorem fraction_mod_signBit (bits : Nat) :
    bits % f.signBit % 2 ^ f.fractionBits = bits % 2 ^ f.fractionBits := by
  rw [signBit_eq, Nat.mod_mul_right_mod]

/-- A pattern stands for its sign with the magnitude of the rest; from that of infinity on the rest
stands for no magnitude. -/
theorem datum_eq (bits : Nat) :
    f.datum bits =
      if bits % f.signBit < f.infinityBits then
        .finite (f.isNegative bits) (f.mantissaOf (bits % f.signBit))
          (f.leastExponent + f.stepsOf (bits % f.signBit))
      else if bits % f.signBit = f.infinityBits then .infinity (f.isNegative bits)
      else .nan := by
  have htwo : ∀ n, twoTo n = 2 ^ n := fun _ => rfl
  have hinfinity : f.infinityBits = (2 ^ f.exponentBits - 1) * 2 ^ f.fractionBits := rfl
  simp only [datum, htwo, beq_iff_eq]
  rw [← f.field_mod_signBit bits, ← f.fraction_mod_signBit bits]
  have hlt : bits % f.signBit < 2 ^ f.fractionBits * 2 ^ f.exponentBits := by
    rw [← signBit_eq]
    exact Nat.mod_lt _ f.signBit_pos
  change (if _ then if _ then Datum.infinity (f.isNegative bits) else _
    else if _ then Datum.finite (f.isNegative bits) _ _
    else Datum.finite (f.isNegative bits) _ _) = _
  generalize f.isNegative bits = negative
  generalize bits % f.signBit = b at hlt ⊢
  have hfield : b / 2 ^ f.fractionBits < 2 ^ f.exponentBits := Nat.div_lt_of_lt_mul hlt
  have hfraction := Nat.mod_lt b (Nat.two_pow_pos f.fractionBits)
  have hsplit := Nat.div_add_mod' b (2 ^ f.fractionBits)
  unfold mantissaOf stepsOf
  generalize b / 2 ^ f.fractionBits = field at hfield hsplit ⊢
  generalize b % 2 ^ f.fractionBits = fraction at hfraction hsplit ⊢
  by_cases hlast : field + 1 = 2 ^ f.exponentBits
  · have hsplit' : f.infinityBits + fraction = b := by
      rw [hinfinity, ← hlast, Nat.add_sub_cancel]
      exact hsplit
    rw [if_pos hlast, if_neg (show ¬b < f.infinityBits by omega)]
    by_cases hzero : fraction = 0
    · rw [if_pos hzero, if_pos (show b = f.infinityBits by omega)]
    · rw [if_neg hzero, if_neg (show b ≠ f.infinityBits by omega)]
  · have hfinite : b < f.infinityBits := by
      have hle : (field + 1) * 2 ^ f.fractionBits ≤ f.infinityBits :=
        Nat.mul_le_mul_right _ (Nat.le_sub_one_of_lt (lt_of_le_of_ne hfield hlast))
      rw [Nat.succ_mul] at hle
      omega
    rw [if_neg hlast, if_pos hfinite]
    by_cases hzero : field = 0
    · rw [if_pos hzero, if_pos hzero, hzero, Nat.zero_sub, Nat.cast_zero, add_zero]
    · have hexponent : f.leastExponent + (field : Int) - 1 =
          f.leastExponent + (field - 1 : Nat) := by omega
      rw [if_neg hzero, if_neg hzero, hexponent]

/-- A pattern is its sign bit and the rest. -/
theorem signPattern_add_mod {bits : Nat} (h : bits < 2 * f.signBit) :
    f.signPattern (f.isNegative bits) + bits % f.signBit = bits := by
  have hdiv : bits / f.signBit < 2 := (Nat.div_lt_iff_lt_mul f.signBit_pos).mpr h
  have hsplit := Nat.div_add_mod bits f.signBit
  unfold signPattern isNegative
  rcases Nat.le_one_iff_eq_zero_or_eq_one.mp (Nat.lt_succ_iff.mp hdiv) with hsign | hsign
  · rw [hsign] at hsplit ⊢
    simpa using hsplit
  · rw [hsign] at hsplit ⊢
    simpa using hsplit

/-- A finite pattern as a ratio. -/
theorem magnitude_eq_div (b : Nat) :
    f.magnitude b =
      (f.mantissaOf b * (powerOfTwo (f.leastExponent + f.stepsOf b)).1 : Nat) /
        (powerOfTwo (f.leastExponent + f.stepsOf b)).2 := by
  rw [magnitude, ← powerOfTwo_div, Nat.cast_mul, mul_div_assoc]

/-- A ratio that is a magnitude of the format is rounded to its pattern. -/
theorem nearest_eq_of_magnitude (hfraction : 0 < f.fractionBits) (negative : Bool)
    {num den b : Nat} (hden : 0 < den) (hb : b ≤ f.infinityBits)
    (hmagnitude : (num : ℚ) / den = f.magnitude b) :
    f.nearest negative num den = f.signPattern negative + b := by
  obtain ⟨c, hc, hnearest⟩ := f.exists_isNearest hfraction negative num hden
  rw [hmagnitude] at hc
  rw [hnearest, hc.eq_of_magnitude, Nat.min_eq_left hb]

theorem pattern_finite (negative : Bool) (mantissa : Nat) (exponent : Int) :
    f.pattern (.finite negative mantissa exponent) =
      f.nearest negative (mantissa * (powerOfTwo exponent).1) (powerOfTwo exponent).2 :=
  rfl

/-- What a pattern stands for is rounded to the pattern. -/
theorem pattern_datum (hfraction : 0 < f.fractionBits) {bits : Nat} (hbits : bits < 2 * f.signBit)
    (hnumber : f.datum bits ≠ .nan) : f.pattern (f.datum bits) = bits := by
  have hsplit := f.signPattern_add_mod hbits
  rw [f.datum_eq] at hnumber ⊢
  by_cases hfinite : bits % f.signBit < f.infinityBits
  · rw [if_pos hfinite]
    rw [f.pattern_finite, f.nearest_eq_of_magnitude hfraction _ (powerOfTwo_pos _).2 hfinite.le
      (f.magnitude_eq_div _).symm, hsplit]
  · rw [if_neg hfinite] at hnumber ⊢
    by_cases hinfinite : bits % f.signBit = f.infinityBits
    · rw [if_pos hinfinite]
      change f.signPattern _ + f.infinityBits = bits
      rw [← hinfinite, hsplit]
    · rw [if_neg hinfinite] at hnumber
      exact absurd rfl hnumber

end Format

end Binary

open Binary (Format Datum binary64 powerOfTwo powerOfTwo_pos)

/-! ## Integers -/

namespace Double

/-- The zero with a sign. -/
def negativeZero : Double := ⟨0x8000000000000000⟩

theorem bits_lt (x : Double) : x.bits.toNat < 2 * binary64.signBit := x.bits.toNat_lt

theorem ofNat_toNat_bits (x : Double) : (⟨UInt64.ofNat x.bits.toNat⟩ : Double) = x := by
  rw [UInt64.ofNat_toNat]

/-- What a number stands for is rounded to the number. -/
theorem ofDatum_datum {x : Double} (h : x.isNaN = false) : ofDatum x.datum = x := by
  have hnumber : binary64.datum x.bits.toNat ≠ .nan := by
    intro hnan
    rw [isNaN, datum, hnan] at h
    cases h
  rw [ofDatum, datum, binary64.pattern_datum (by decide) x.bits_lt hnumber, ofNat_toNat_bits]

/-- A finite number and the pattern of its magnitude. -/
theorem datum_eq_finite {x : Double} {negative : Bool} {mantissa : Nat} {exponent : Int}
    (h : x.datum = .finite negative mantissa exponent) :
    ∃ b, b < binary64.infinityBits ∧ binary64.signPattern negative + b = x.bits.toNat ∧
      ((mantissa * (powerOfTwo exponent).1 : Nat) : ℚ) / (powerOfTwo exponent).2 =
        binary64.magnitude b := by
  rw [datum, binary64.datum_eq] at h
  split_ifs at h with hfinite
  simp only [Datum.finite.injEq] at h
  obtain ⟨rfl, rfl, rfl⟩ := h
  exact ⟨_, hfinite, binary64.signPattern_add_mod x.bits_lt, (binary64.magnitude_eq_div _).symm⟩

/-- Only the negative zero has a sign but no magnitude. -/
theorem eq_negativeZero {x : Double} {b : Nat}
    (hbits : binary64.signPattern Bool.true + b = x.bits.toNat) (hzero : binary64.magnitude b = 0) :
    x = negativeZero := by
  obtain rfl : b = 0 :=
    binary64.magnitude_strictMono.injective (hzero.trans binary64.magnitude_zero.symm)
  rw [← ofNat_toNat_bits x, ← hbits]
  rfl

/-- What equals an integer is a finite number, and the integer times its denominator is its
numerator. -/
theorem compareInt?_eq_some_eq {x : Double} {n : Int} (h : x.compareInt? n = some .eq) :
    ∃ negative mantissa exponent, x.datum = .finite negative mantissa exponent ∧
      (if negative then -1 else 1) * ((mantissa * (powerOfTwo exponent).1 : Nat) : Int) =
        n * (powerOfTwo exponent).2 := by
  unfold compareInt? at h
  split at h
  · cases h
  · rename_i negative _
    cases negative <;> cases h
  · rename_i negative mantissa exponent hdatum
    have hcompare : compare ((if negative then -1 else 1) *
        ((mantissa * (powerOfTwo exponent).1 : Nat) : Int) * 1)
          (n * (powerOfTwo exponent).2) = .eq := Option.some.inj h
    rw [compare_eq_iff_eq, mul_one] at hcompare
    exact ⟨negative, mantissa, exponent, hdatum, hcompare⟩

/-- A finite number that equals an integer is what the integer is rounded to, but for the sign of
zero. -/
theorem ofInt_of_compareInt?_eq {x : Double} {n : Int} (h : x.compareInt? n = some .eq)
    (hzero : x ≠ negativeZero) : ofInt n = x := by
  obtain ⟨negative, mantissa, exponent, hdatum, heq⟩ := compareInt?_eq_some_eq h
  obtain ⟨b, hb, hbits, hmagnitude⟩ := datum_eq_finite hdatum
  have hdown := (powerOfTwo_pos exponent).2
  generalize mantissa * (powerOfTwo exponent).1 = whole at hmagnitude heq
  generalize (powerOfTwo exponent).2 = down at hmagnitude heq hdown
  have habs : (n.natAbs : ℚ) / (1 : Nat) = binary64.magnitude b := by
    have hwhole : whole = n.natAbs * down := by
      have hnatAbs := congrArg Int.natAbs heq
      cases negative <;> simpa [Int.natAbs_mul] using hnatAbs
    have hdown' : (down : ℚ) ≠ 0 := by exact_mod_cast hdown.ne'
    rw [← hmagnitude, hwhole, Nat.cast_mul, mul_div_cancel_right₀ _ hdown', Nat.cast_one, div_one]
  have hsign : decide (n < 0) = negative := by
    have hdown' : (0 : Int) < down := by exact_mod_cast hdown
    cases negative with
    | false =>
      have hproduct : 0 ≤ n * down := by
        rw [← heq]
        simp
      simpa using nonneg_of_mul_nonneg_left hproduct hdown'
    | true =>
      -- If the integer were not negative, it would be zero, and the number the negative zero.
      by_contra hnonneg
      have hproduct : 0 ≤ n * down := mul_nonneg (by simpa using hnonneg) hdown'.le
      rw [← heq] at hproduct
      obtain rfl : whole = 0 := by simpa using hproduct
      refine hzero (eq_negativeZero hbits ?_)
      rw [← hmagnitude, Nat.cast_zero, zero_div]
  rw [ofInt, ofRatio, binary64.nearest_eq_of_magnitude (by decide) _ (by decide) hb.le habs, hsign,
    hbits, ofNat_toNat_bits]

end Double

end TypedQuery
