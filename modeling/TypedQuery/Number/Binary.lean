import TypedQuery.Number.Power

/-!
# Binary interchange formats

A floating-point number is kept as its bit pattern. This file says what a pattern stands for
(`Format.datum`) and which pattern is nearest to a given ratio of natural numbers
(`Format.nearest`, a tie going to the even pattern). Every operation on floating-point numbers in
this library is exact arithmetic on natural numbers between these two.
-/

set_option autoImplicit false

namespace TypedQuery.Binary

open TypedQuery.Number (twoTo)

/-- The widths of the fraction and the exponent field of a format. -/
structure Format where
  fractionBits : Nat
  exponentBits : Nat
  deriving DecidableEq, Repr

/-- The 64-bit format. -/
def binary64 : Format := ⟨52, 11⟩

/-- The 32-bit format. -/
def binary32 : Format := ⟨23, 8⟩

/-- What a bit pattern stands for. A finite number is `mantissa * 2 ^ exponent` with its sign, which
a zero has too. -/
inductive Datum where
  | nan
  | infinity (negative : Bool)
  | finite (negative : Bool) (mantissa : Nat) (exponent : Int)
  deriving DecidableEq, Repr

/-- The exponent of the least positive number of the format. -/
def Format.leastExponent (f : Format) : Int :=
  2 - (twoTo (f.exponentBits - 1) : Int) - f.fractionBits

/-- The pattern of the sign bit alone. -/
def Format.signBit (f : Format) : Nat := twoTo (f.fractionBits + f.exponentBits)

/-- The pattern of positive infinity. -/
def Format.infinityBits (f : Format) : Nat := (twoTo f.exponentBits - 1) * twoTo f.fractionBits

/-- The pattern of the quiet not-a-number without payload. -/
def Format.nanBits (f : Format) : Nat := f.infinityBits + twoTo (f.fractionBits - 1)

/-- What the bit pattern stands for. -/
def Format.datum (f : Format) (bits : Nat) : Datum :=
  let negative := bits / f.signBit % 2 == 1
  let field := bits / twoTo f.fractionBits % twoTo f.exponentBits
  let fraction := bits % twoTo f.fractionBits
  if field + 1 == twoTo f.exponentBits then
    if fraction == 0 then .infinity negative else .nan
  else if field == 0 then .finite negative fraction f.leastExponent
  else .finite negative (twoTo f.fractionBits + fraction) (f.leastExponent + field - 1)

/-- The quotient rounded to the nearest natural number, a half going to the even one. -/
def divHalfEven (num den : Nat) : Nat :=
  let q := num / den
  let r := num % den
  if 2 * r < den then q
  else if den < 2 * r then q + 1
  else if q % 2 == 0 then q else q + 1

/-- The quotient rounded to the nearest natural number, a half going up. -/
def divHalfUp (num den : Nat) : Nat := (2 * num + den) / (2 * den)

/-- `2 ^ e` as a pair of numerator and denominator. -/
def powerOfTwo (e : Int) : Nat × Nat := (twoTo e.toNat, twoTo (-e).toNat)

/-- The exponent of the greatest power of two that is at most `num / den`, for positive numbers. -/
def floorLog2 (num den : Nat) : Int :=
  let e : Int := (Nat.log2 num : Int) - Nat.log2 den
  let (up, down) := powerOfTwo e
  if num * down < den * up then e - 1 else e

/-- The pattern nearest to `num / den` with the given sign. Magnitudes beyond the greatest number
round to infinity, and those below half the least one to zero. -/
def Format.nearest (f : Format) (negative : Bool) (num den : Nat) : Nat :=
  let sign := if negative then f.signBit else 0
  if num == 0 then sign
  else
    let exponent := max f.leastExponent (floorLog2 num den - f.fractionBits)
    let (up, down) := powerOfTwo exponent
    let mantissa := divHalfEven (num * down) (den * up)
    let magnitude := (exponent - f.leastExponent).toNat * twoTo f.fractionBits + mantissa
    sign + min magnitude f.infinityBits

/-- The pattern of a datum, rounded to the format. -/
def Format.pattern (f : Format) : Datum → Nat
  | .nan => f.nanBits
  | .infinity negative => (if negative then f.signBit else 0) + f.infinityBits
  | .finite negative mantissa exponent =>
    let (up, down) := powerOfTwo exponent
    f.nearest negative (mantissa * up) down

end TypedQuery.Binary
