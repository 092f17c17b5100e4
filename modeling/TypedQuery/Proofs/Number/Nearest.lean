import TypedQuery.Number.Double
import Mathlib.Algebra.Order.Field.Power
import Mathlib.Algebra.Order.Archimedean.Basic
import Mathlib.Data.Rat.Cast.Order
import Mathlib.Tactic.FieldSimp
import Mathlib.Tactic.Linarith
import Mathlib.Tactic.Positivity
import Mathlib.Tactic.Ring

/-!
# The nearest number of a format

Without its sign a pattern is a natural number, and the magnitudes that these numbers stand for grow
with them: the pattern after the last one of a binade begins the next binade. Infinity takes the
place of the magnitude that would come after the greatest one.

`nearest` rounds on the grid of the binade that the given ratio lies in. That grid has all magnitudes
from the binade on, and those below it are farther away than its lower end, so the pattern it finds
is the nearest of all (`exists_isNearest`). A magnitude of the format is rounded to itself.
-/

set_option autoImplicit false

namespace TypedQuery.Binary

open TypedQuery.Number (twoTo)

/-! ## Magnitudes -/

namespace Format

variable (f : Format)

/-- The mantissa of a pattern without sign; all but the least magnitudes have a leading one. -/
def mantissaOf (b : Nat) : Nat :=
  if b / 2 ^ f.fractionBits = 0 then b % 2 ^ f.fractionBits
  else 2 ^ f.fractionBits + b % 2 ^ f.fractionBits

/-- The exponent of a pattern without sign, counted from the least one. -/
def stepsOf (b : Nat) : Nat := b / 2 ^ f.fractionBits - 1

/-- The magnitude of a pattern without sign. -/
def magnitude (b : Nat) : ℚ := f.mantissaOf b * 2 ^ (f.leastExponent + f.stepsOf b)

/-- A pattern consists of its exponent and its mantissa. -/
theorem eq_stepsOf_mul_add_mantissaOf (b : Nat) :
    b = f.stepsOf b * 2 ^ f.fractionBits + f.mantissaOf b := by
  have hdiv := Nat.div_add_mod b (2 ^ f.fractionBits)
  unfold stepsOf mantissaOf
  split
  · rename_i hfield
    rw [hfield] at hdiv ⊢
    omega
  · rename_i hfield
    obtain ⟨n, hn⟩ := Nat.exists_eq_add_one_of_ne_zero hfield
    rw [hn] at hdiv ⊢
    have hnext : 2 ^ f.fractionBits * (n + 1) = n * 2 ^ f.fractionBits + 2 ^ f.fractionBits := by
      ring
    rw [Nat.add_sub_cancel]
    omega

theorem mantissaOf_lt (b : Nat) : f.mantissaOf b < 2 ^ (f.fractionBits + 1) := by
  have hmod := Nat.mod_lt b (Nat.two_pow_pos f.fractionBits)
  have hpow : 2 ^ (f.fractionBits + 1) = 2 ^ f.fractionBits + 2 ^ f.fractionBits := by ring
  unfold mantissaOf
  split <;> omega

/-- A mantissa without a leading one has the least exponent. -/
theorem stepsOf_eq_zero {b : Nat} (h : f.mantissaOf b < 2 ^ f.fractionBits) : f.stepsOf b = 0 := by
  unfold mantissaOf at h
  split at h
  · rename_i hfield
    rw [stepsOf, hfield]
  · omega

/-- The magnitude of an exponent and a mantissa. A mantissa that is one too great counts for the next
exponent. -/
theorem magnitude_add {steps mantissa : Nat} (hmantissa : mantissa ≤ 2 ^ (f.fractionBits + 1))
    (hsteps : mantissa < 2 ^ f.fractionBits → steps = 0) :
    f.magnitude (steps * 2 ^ f.fractionBits + mantissa) =
      mantissa * 2 ^ (f.leastExponent + steps) := by
  have hpos := Nat.two_pow_pos f.fractionBits
  have hpow : 2 ^ (f.fractionBits + 1) = 2 * 2 ^ f.fractionBits := Nat.pow_succ'
  unfold magnitude mantissaOf stepsOf
  by_cases hlow : mantissa < 2 ^ f.fractionBits
  · -- Without a leading one the mantissa is the whole pattern.
    have hdiv : (steps * 2 ^ f.fractionBits + mantissa) / 2 ^ f.fractionBits = 0 := by
      rw [hsteps hlow, Nat.zero_mul, Nat.zero_add, Nat.div_eq_of_lt hlow]
    have hmod : (steps * 2 ^ f.fractionBits + mantissa) % 2 ^ f.fractionBits = mantissa := by
      rw [Nat.mul_add_mod', Nat.mod_eq_of_lt hlow]
    rw [hdiv, hmod, hsteps hlow, if_pos rfl]
  by_cases hnext : mantissa = 2 ^ (f.fractionBits + 1)
  · have hsplit : steps * 2 ^ f.fractionBits + mantissa = (steps + 2) * 2 ^ f.fractionBits := by
      rw [hnext, hpow]
      ring
    have hexponent : f.leastExponent + ((steps + 2 - 1 : Nat) : Int) =
        f.leastExponent + steps + 1 := by omega
    rw [hsplit, Nat.mul_div_cancel _ hpos, Nat.mul_mod_left, if_neg (by omega), hexponent, hnext,
      zpow_add_one₀ two_ne_zero, Nat.add_zero, Nat.cast_pow, Nat.cast_pow, Nat.cast_ofNat, pow_succ]
    ring
  · have hsplit : steps * 2 ^ f.fractionBits + mantissa =
        (steps + 1) * 2 ^ f.fractionBits + (mantissa - 2 ^ f.fractionBits) := by
      have hstep : (steps + 1) * 2 ^ f.fractionBits =
        steps * 2 ^ f.fractionBits + 2 ^ f.fractionBits := by ring
      omega
    have hfraction : mantissa - 2 ^ f.fractionBits < 2 ^ f.fractionBits := by omega
    have hdiv : ((steps + 1) * 2 ^ f.fractionBits + (mantissa - 2 ^ f.fractionBits)) /
        2 ^ f.fractionBits = steps + 1 := by
      rw [Nat.mul_comm, Nat.mul_add_div hpos, Nat.div_eq_of_lt hfraction, Nat.add_zero]
    have hmod : ((steps + 1) * 2 ^ f.fractionBits + (mantissa - 2 ^ f.fractionBits)) %
        2 ^ f.fractionBits = mantissa - 2 ^ f.fractionBits := by
      rw [Nat.mul_add_mod', Nat.mod_eq_of_lt hfraction]
    rw [hsplit, hdiv, hmod, if_neg (by omega), Nat.add_sub_cancel, Nat.add_sub_cancel' (by omega)]

/-- Magnitudes grow with their patterns. -/
theorem magnitude_strictMono : StrictMono f.magnitude := by
  refine strictMono_nat_of_lt_succ fun b => ?_
  have hnext : f.magnitude (b + 1) =
      (f.mantissaOf b + 1 : Nat) * 2 ^ (f.leastExponent + f.stepsOf b) := by
    have hlt := f.mantissaOf_lt b
    have hsplit : b + 1 = f.stepsOf b * 2 ^ f.fractionBits + (f.mantissaOf b + 1) := by
      rw [← Nat.add_assoc, ← f.eq_stepsOf_mul_add_mantissaOf b]
    rw [hsplit, f.magnitude_add (by omega) fun h => f.stepsOf_eq_zero (by omega)]
  have hunit : (0 : ℚ) < 2 ^ (f.leastExponent + f.stepsOf b) := by positivity
  rw [hnext, magnitude, Nat.cast_add, Nat.cast_one, add_mul, one_mul]
  linarith

end Format

/-! ## Roundings of ratios -/

theorem powerOfTwo_pos (e : Int) : 0 < (powerOfTwo e).1 ∧ 0 < (powerOfTwo e).2 :=
  ⟨Nat.two_pow_pos _, Nat.two_pow_pos _⟩

/-- The parts of a power of two. -/
theorem powerOfTwo_div (e : Int) : ((powerOfTwo e).1 : ℚ) / (powerOfTwo e).2 = 2 ^ e := by
  have hparts : (powerOfTwo e).1 = 2 ^ e.toNat ∧ (powerOfTwo e).2 = 2 ^ (-e).toNat := ⟨rfl, rfl⟩
  rw [hparts.1, hparts.2, Nat.cast_pow, Nat.cast_pow, Nat.cast_ofNat, ← zpow_natCast,
    ← zpow_natCast, ← zpow_sub₀ two_ne_zero]
  congr 1
  omega

/-- The quotient and its rounding differ by a half at most, and if by a half, the rounding is even. -/
theorem abs_divHalfEven_sub_le (num : Nat) {den : Nat} (hden : 0 < den) :
    |(divHalfEven num den : ℚ) - num / den| ≤ 1 / 2 ∧
      (|(divHalfEven num den : ℚ) - num / den| = 1 / 2 → Even (divHalfEven num den)) := by
  have hden' : (0 : ℚ) < den := by exact_mod_cast hden
  obtain ⟨x, hx⟩ : ∃ x : ℚ, x = (num % den : Nat) / den := ⟨_, rfl⟩
  have hquotient : (num : ℚ) / den = (num / den : Nat) + x := by
    have hdiv : (num : ℚ) = den * (num / den : Nat) + (num % den : Nat) := by
      exact_mod_cast (Nat.div_add_mod num den).symm
    rw [hx, eq_comm, ← mul_right_inj' hden'.ne']
    field_simp
    linarith
  have hremainder : 2 * x * den = 2 * (num % den : Nat) := by
    rw [hx, mul_assoc, div_mul_cancel₀ _ hden'.ne']
  have hx0 : 0 ≤ x := by rw [hx]; positivity
  unfold divHalfEven
  simp only [beq_iff_eq]
  rw [hquotient]
  split_ifs with hlow hhigh heven
  · have hlow' : 2 * x < 1 := by
      rw [← mul_lt_mul_iff_left₀ hden', hremainder, one_mul]
      exact_mod_cast hlow
    rw [sub_add_cancel_left, abs_neg, abs_of_nonneg hx0]
    exact ⟨by linarith, fun h => by linarith⟩
  · have hhigh' : 1 < 2 * x := by
      rw [← mul_lt_mul_iff_left₀ hden', hremainder, one_mul]
      exact_mod_cast hhigh
    have hx1 : x < 1 := by
      rw [hx, div_lt_one hden']
      exact_mod_cast Nat.mod_lt num hden
    rw [Nat.cast_add, Nat.cast_one, add_sub_add_left_eq_sub, abs_of_nonneg (by linarith)]
    exact ⟨by linarith, fun h => by linarith⟩
  all_goals
    have htie : 2 * x = 1 := by
      have hnat : 2 * (num % den) = den := by omega
      rw [← mul_left_inj' hden'.ne', hremainder, one_mul]
      exact_mod_cast hnat
  · rw [sub_add_cancel_left, abs_neg, abs_of_nonneg hx0]
    exact ⟨by linarith, fun _ => Nat.even_iff.mpr heven⟩
  · rw [Nat.cast_add, Nat.cast_one, add_sub_add_left_eq_sub, abs_of_nonneg (by linarith)]
    exact ⟨by linarith, fun _ => Nat.even_iff.mpr (by omega)⟩

/-- A rounding to a half at most is the nearest of all natural numbers, and a tie makes it even. -/
theorem divHalfEven_isNearest (num : Nat) {den : Nat} (hden : 0 < den) (n : Nat) :
    |(divHalfEven num den : ℚ) - num / den| ≤ |(n : ℚ) - num / den| ∧
      (n ≠ divHalfEven num den → |(n : ℚ) - num / den| = |(divHalfEven num den : ℚ) - num / den| →
        Even (divHalfEven num den)) := by
  obtain ⟨hhalf, heven⟩ := abs_divHalfEven_sub_le num hden
  by_cases hn : n = divHalfEven num den
  · exact ⟨by rw [hn], fun hne => absurd hn hne⟩
  have hapart : (1 : ℚ) ≤ |(n : ℚ) - divHalfEven num den| := by
    have hint : (1 : Int) ≤ |(n : Int) - divHalfEven num den| :=
      Int.one_le_abs (sub_ne_zero.mpr (by exact_mod_cast hn))
    exact_mod_cast hint
  have htriangle : |(n : ℚ) - divHalfEven num den| ≤
      |(n : ℚ) - num / den| + |(divHalfEven num den : ℚ) - num / den| := by
    rw [abs_sub_comm (divHalfEven num den : ℚ)]
    exact abs_sub_le _ _ _
  exact ⟨by linarith, fun _ htie => heven (by linarith)⟩

/-- The binary lengths of the two parts of a ratio leave two candidates for its binade. -/
theorem lt_div_lt_of_log2 {num den : Nat} (hnum : 0 < num) (hden : 0 < den) :
    (2 : ℚ) ^ ((Nat.log2 num : Int) - Nat.log2 den - 1) < num / den ∧
      (num : ℚ) / den < 2 ^ ((Nat.log2 num : Int) - Nat.log2 den + 1) := by
  have hden' : (0 : ℚ) < den := by exact_mod_cast hden
  have hnumLow : (2 : ℚ) ^ (Nat.log2 num : Int) ≤ num := by
    exact_mod_cast Nat.log2_self_le hnum.ne'
  have hnumHigh : (num : ℚ) < 2 ^ ((Nat.log2 num : Int) + 1) := by
    exact_mod_cast Nat.lt_log2_self
  have hdenLow : (2 : ℚ) ^ (Nat.log2 den : Int) ≤ den := by
    exact_mod_cast Nat.log2_self_le hden.ne'
  have hdenHigh : (den : ℚ) < 2 ^ ((Nat.log2 den : Int) + 1) := by
    exact_mod_cast Nat.lt_log2_self
  constructor
  · rw [lt_div_iff₀ hden']
    calc (2 : ℚ) ^ ((Nat.log2 num : Int) - Nat.log2 den - 1) * den
        < 2 ^ ((Nat.log2 num : Int) - Nat.log2 den - 1) * 2 ^ ((Nat.log2 den : Int) + 1) := by
          gcongr
      _ = 2 ^ (Nat.log2 num : Int) := by
          rw [← zpow_add₀ two_ne_zero]
          congr 1
          ring
      _ ≤ num := hnumLow
  · rw [div_lt_iff₀ hden']
    calc (num : ℚ) < 2 ^ ((Nat.log2 num : Int) + 1) := hnumHigh
      _ = 2 ^ ((Nat.log2 num : Int) - Nat.log2 den + 1) * 2 ^ (Nat.log2 den : Int) := by
          rw [← zpow_add₀ two_ne_zero]
          congr 1
          ring
      _ ≤ 2 ^ ((Nat.log2 num : Int) - Nat.log2 den + 1) * den := by gcongr

/-- The greatest power of two that is at most a ratio. -/
theorem floorLog2_spec {num den : Nat} (hnum : 0 < num) (hden : 0 < den) :
    (2 : ℚ) ^ floorLog2 num den ≤ num / den ∧ (num : ℚ) / den < 2 ^ (floorLog2 num den + 1) := by
  have hden' : (0 : ℚ) < den := by exact_mod_cast hden
  obtain ⟨hlower, hupper⟩ := lt_div_lt_of_log2 hnum hden
  generalize he : (Nat.log2 num : Int) - Nat.log2 den = e at hlower hupper
  obtain ⟨hup, hdown⟩ := powerOfTwo_pos e
  have hup' : (0 : ℚ) < (powerOfTwo e).1 := by exact_mod_cast hup
  have hdown' : (0 : ℚ) < (powerOfTwo e).2 := by exact_mod_cast hdown
  have htest : num * (powerOfTwo e).2 < den * (powerOfTwo e).1 ↔ (num : ℚ) / den < 2 ^ e := by
    rw [← powerOfTwo_div, div_lt_div_iff₀ hden' hdown', mul_comm ((powerOfTwo e).1 : ℚ)]
    norm_cast
  unfold floorLog2
  simp only [he]
  split_ifs with h
  · rw [sub_add_cancel]
    exact ⟨hlower.le, htest.mp h⟩
  · exact ⟨not_lt.mp (mt htest.mpr h), hupper⟩

/-! ## The nearest pattern -/

namespace Format

variable (f : Format)

/-- The magnitude of a pattern is nearest to a number, and the pattern is even if another one is as
near. -/
structure IsNearest (b : Nat) (q : ℚ) : Prop where
  closest : ∀ c, |f.magnitude b - q| ≤ |f.magnitude c - q|
  even : ∀ c, c ≠ b → |f.magnitude c - q| = |f.magnitude b - q| → Even b

/-- The pattern of a sign. -/
def signPattern (negative : Bool) : Nat := if negative then f.signBit else 0

variable {f} in
/-- Only one pattern is nearest to a number that is a magnitude itself. -/
theorem IsNearest.eq_of_magnitude {b c : Nat} (h : f.IsNearest b (f.magnitude c)) : b = c := by
  have hclosest := h.closest c
  rw [sub_self, abs_zero] at hclosest
  exact f.magnitude_strictMono.injective (sub_eq_zero.mp (abs_nonpos_iff.mp hclosest))

/-- From a binade on, magnitudes are on its grid. -/
theorem exists_magnitude_eq_mul {c steps : Nat} (h : steps ≤ f.stepsOf c) :
    ∃ n : Nat, f.magnitude c = n * 2 ^ (f.leastExponent + steps) := by
  refine ⟨f.mantissaOf c * 2 ^ (f.stepsOf c - steps), ?_⟩
  have hexponent : f.leastExponent + f.stepsOf c =
      ((f.stepsOf c - steps : Nat) : Int) + (f.leastExponent + steps) := by omega
  rw [magnitude, hexponent, zpow_add₀ two_ne_zero, zpow_natCast]
  push_cast
  ring

/-- Below a binade, magnitudes are less than its first. -/
theorem magnitude_lt_of_stepsOf_lt {c steps : Nat} (h : f.stepsOf c < steps) :
    f.magnitude c < 2 ^ f.fractionBits * 2 ^ (f.leastExponent + steps) := by
  have hmantissa : (f.mantissaOf c : ℚ) < 2 ^ (f.fractionBits + 1) := by
    exact_mod_cast f.mantissaOf_lt c
  have hexponent : (2 : ℚ) ^ (f.leastExponent + f.stepsOf c) * 2 ≤
      2 ^ (f.leastExponent + steps) := by
    rw [← zpow_add_one₀ two_ne_zero]
    exact zpow_le_zpow_right₀ one_le_two (by omega)
  calc f.magnitude c
      < 2 ^ (f.fractionBits + 1) * 2 ^ (f.leastExponent + f.stepsOf c) := by
        unfold magnitude
        gcongr
    _ = 2 ^ f.fractionBits * (2 ^ (f.leastExponent + f.stepsOf c) * 2) := by ring
    _ ≤ 2 ^ f.fractionBits * 2 ^ (f.leastExponent + steps) := by gcongr

/-- The rounding of a number in a binade is again in the binade, or the first of the next one. -/
theorem divHalfEven_in_binade {steps num den : Nat} (hden : 0 < den)
    (hlow : 0 < steps → (2 : ℚ) ^ f.fractionBits ≤ num / den)
    (hhigh : (num : ℚ) / den < 2 ^ (f.fractionBits + 1)) :
    divHalfEven num den ≤ 2 ^ (f.fractionBits + 1) ∧
      (divHalfEven num den < 2 ^ f.fractionBits → steps = 0) := by
  have hhalf := (abs_divHalfEven_sub_le num hden).1
  constructor
  · have hlt : (divHalfEven num den : ℚ) < (2 ^ (f.fractionBits + 1) : Nat) + 1 := by
      rw [Nat.cast_pow, Nat.cast_ofNat]
      linarith [le_abs_self ((divHalfEven num den : ℚ) - num / den)]
    exact Nat.lt_succ_iff.mp (by exact_mod_cast hlt)
  · intro hsmall
    by_contra hsteps
    have hle : (divHalfEven num den : ℚ) + 1 ≤ (2 ^ f.fractionBits : Nat) := by
      exact_mod_cast hsmall
    rw [Nat.cast_pow, Nat.cast_ofNat] at hle
    linarith [hlow (Nat.pos_of_ne_zero hsteps),
      neg_abs_le ((divHalfEven num den : ℚ) - num / den)]

/-- What is nearest on the grid of the binade of a number is the nearest of all. -/
theorem isNearest_of_grid {q : ℚ} {steps num den : Nat} (hfraction : 0 < f.fractionBits)
    (hden : 0 < den) (hq : q = num / den * 2 ^ (f.leastExponent + steps))
    (hlow : 0 < steps → (2 : ℚ) ^ f.fractionBits ≤ num / den)
    (hhigh : (num : ℚ) / den < 2 ^ (f.fractionBits + 1)) :
    f.IsNearest (steps * 2 ^ f.fractionBits + divHalfEven num den) q := by
  obtain ⟨hupper, hlower⟩ := f.divHalfEven_in_binade hden hlow hhigh
  have hnearest := divHalfEven_isNearest num hden
  have hmagnitude := f.magnitude_add hupper hlower
  have hgrid : ∀ c, steps ≤ f.stepsOf c →
      ∃ n : Nat, f.magnitude c = n * 2 ^ (f.leastExponent + steps) :=
    fun _ => f.exists_magnitude_eq_mul
  have hbelow : ∀ c, f.stepsOf c < steps →
      f.magnitude c < 2 ^ f.fractionBits * 2 ^ (f.leastExponent + steps) :=
    fun _ => f.magnitude_lt_of_stepsOf_lt
  have hpos : (0 : ℚ) < 2 ^ (f.leastExponent + steps) := by positivity
  generalize (2 : ℚ) ^ (f.leastExponent + steps) = unit at hq hmagnitude hgrid hbelow hpos
  have hdistance : ∀ n : ℚ, |n * unit - q| = |n - num / den| * unit := by
    intro n
    rw [hq, ← sub_mul, abs_mul, abs_of_pos hpos]
  -- What is below the binade is farther than its first magnitude, which is on the grid.
  have hfarther : ∀ c, f.stepsOf c < steps →
      |(divHalfEven num den : ℚ) * unit - q| < |f.magnitude c - q| := by
    intro c hsteps
    have hlt := hbelow c hsteps
    have hstart : (2 : ℚ) ^ f.fractionBits * unit ≤ q := by
      rw [hq]
      gcongr
      exact hlow (Nat.zero_lt_of_lt hsteps)
    have hfirst : |(divHalfEven num den : ℚ) * unit - q| ≤
        |(2 : ℚ) ^ f.fractionBits * unit - q| := by
      have hclosest := (hnearest (2 ^ f.fractionBits)).1
      rw [Nat.cast_pow, Nat.cast_ofNat] at hclosest
      rw [hdistance, hdistance]
      exact mul_le_mul_of_nonneg_right hclosest hpos.le
    rw [abs_of_nonpos (by linarith : (2 : ℚ) ^ f.fractionBits * unit - q ≤ 0)] at hfirst
    rw [abs_of_neg (by linarith : f.magnitude c - q < 0)]
    linarith
  refine ⟨?closest, ?even⟩
  case closest =>
    intro c
    rw [hmagnitude]
    rcases Nat.lt_or_ge (f.stepsOf c) steps with hsteps | hsteps
    · exact (hfarther c hsteps).le
    · obtain ⟨n, hn⟩ := hgrid c hsteps
      rw [hn, hdistance, hdistance]
      exact mul_le_mul_of_nonneg_right (hnearest n).1 hpos.le
  case even =>
    intro c hc htie
    rw [hmagnitude] at htie
    rcases Nat.lt_or_ge (f.stepsOf c) steps with hsteps | hsteps
    · exact absurd htie.symm (hfarther c hsteps).ne
    · obtain ⟨n, hn⟩ := hgrid c hsteps
      rw [hn, hdistance, hdistance] at htie
      have hne : n ≠ divHalfEven num den := by
        rintro rfl
        exact hc (f.magnitude_strictMono.injective (hn.trans hmagnitude.symm))
      have heven := (hnearest n).2 hne (mul_right_cancel₀ hpos.ne' htie)
      exact ((Nat.even_pow.mpr ⟨even_two, hfraction.ne'⟩).mul_left steps).add heven

theorem magnitude_zero : f.magnitude 0 = 0 := by simp [magnitude, mantissaOf]

/-- Zero is nearest to itself. -/
theorem isNearest_zero : f.IsNearest 0 0 := by
  refine ⟨fun c => ?_, fun _ _ _ => Even.zero⟩
  rw [f.magnitude_zero, sub_self, abs_zero]
  exact abs_nonneg _

/-- A positive number as it is counted in units of the last place. -/
theorem div_eq_scaled (num : Nat) {den : Nat} (hden : 0 < den) (exponent : Int) :
    (num : ℚ) / den = (num * (powerOfTwo exponent).2 : Nat) / (den * (powerOfTwo exponent).1 : Nat) *
      2 ^ exponent := by
  obtain ⟨hup, hdown⟩ := powerOfTwo_pos exponent
  have hden' : (0 : ℚ) < den := by exact_mod_cast hden
  have hup' : (0 : ℚ) < (powerOfTwo exponent).1 := by exact_mod_cast hup
  have hdown' : (0 : ℚ) < (powerOfTwo exponent).2 := by exact_mod_cast hdown
  rw [← powerOfTwo_div]
  push_cast
  field_simp

/-- Rounding finds the nearest pattern; one beyond the greatest magnitude becomes infinity. -/
theorem exists_isNearest (hfraction : 0 < f.fractionBits) (negative : Bool) (num : Nat) {den : Nat}
    (hden : 0 < den) :
    ∃ b, f.IsNearest b (num / den) ∧
      f.nearest negative num den = f.signPattern negative + min b f.infinityBits := by
  by_cases hnum : num = 0
  · subst hnum
    refine ⟨0, ?_, by simp [nearest, signPattern]⟩
    rw [Nat.cast_zero, zero_div]
    exact f.isNearest_zero
  obtain ⟨exponent, hexponent⟩ : ∃ e : Int,
      e = max f.leastExponent (floorLog2 num den - f.fractionBits) := ⟨_, rfl⟩
  obtain ⟨hlog, hlog'⟩ := floorLog2_spec (Nat.pos_of_ne_zero hnum) hden
  have hup := (powerOfTwo_pos exponent).1
  have hsteps : f.leastExponent + (exponent - f.leastExponent).toNat = exponent := by omega
  have hscaled := div_eq_scaled num hden exponent
  have hunit : (0 : ℚ) < 2 ^ exponent := by positivity
  refine ⟨(exponent - f.leastExponent).toNat * 2 ^ f.fractionBits +
    divHalfEven (num * (powerOfTwo exponent).2) (den * (powerOfTwo exponent).1), ?_, ?_⟩
  · refine f.isNearest_of_grid hfraction (Nat.mul_pos hden hup) (by rw [hsteps, hscaled]) ?_ ?_
    · intro hpos
      have hbinade : floorLog2 num den = f.fractionBits + exponent := by omega
      rw [hbinade, zpow_add₀ two_ne_zero, zpow_natCast, hscaled] at hlog
      exact le_of_mul_le_mul_right hlog hunit
    · have hbinade : floorLog2 num den + 1 ≤ (f.fractionBits + 1 : Nat) + exponent := by
        push_cast
        omega
      have hlt := hlog'.trans_le (zpow_le_zpow_right₀ one_le_two hbinade)
      rw [zpow_add₀ two_ne_zero, zpow_natCast, hscaled] at hlt
      exact lt_of_mul_lt_mul_right hlt hunit.le
  · simp only [nearest, beq_iff_eq, if_neg hnum, ← hexponent]
    rfl

end Format

end TypedQuery.Binary
