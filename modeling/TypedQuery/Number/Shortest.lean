import TypedQuery.Number.Binary

/-!
# Decimal digits of a binary number

`Format.shortest` finds the decimal with the fewest digits that still rounds to the given binary
number, and among those the nearest to it. For one digit, two digits, and so on it tests the two
neighbours of the number on the grid of decimals with that many digits; the first grid with a
neighbour inside the rounding interval wins. `rounded` gives a fixed count of digits instead.
-/

set_option autoImplicit false

namespace TypedQuery

open TypedQuery.Number (tenTo twoTo)

/-- The number `digits * 10 ^ exponent`. -/
structure Decimal where
  digits : Nat
  exponent : Int
  deriving DecidableEq, Repr

/-- Which of two equally near decimals is taken. -/
inductive Tie where
  | toEven
  | up
  deriving DecidableEq, Repr

namespace Decimal

/-- `10 ^ e` as a pair of numerator and denominator. -/
def powerOfTen (e : Int) : Nat × Nat := (tenTo e.toNat, tenTo (-e).toNat)

/-- Whether `10 ^ e ≤ num / den`. -/
def powerOfTenLe (e : Int) (num den : Nat) : Bool :=
  let (up, down) := powerOfTen e
  up * den ≤ num * down

/-- The exponent of the greatest power of ten that is at most `num / den`, for positive numbers. It
is estimated from the binary exponent, which is never off by more than one. -/
def floorLog10 (num den : Nat) : Int :=
  let e := ((Nat.log2 num : Int) - Nat.log2 den) * 30103 / 100000
  if powerOfTenLe (e + 1) num den then e + 1 else if powerOfTenLe e num den then e else e - 1

/-- Takes trailing zeros off the digits, at most `fuel` of them. -/
def stripZeros : Nat → Decimal → Decimal
  | 0, d => d
  | fuel + 1, d =>
    if d.digits == 0 || d.digits % 10 != 0 then d
    else stripZeros fuel ⟨d.digits / 10, d.exponent + 1⟩

/-- The same number without trailing zeros in its digits. -/
def normalize (d : Decimal) : Decimal :=
  if d.digits == 0 then ⟨0, 0⟩ else stripZeros (d.digits.log2 + 1) d

/-- The exponent of the leading digit; zero for the number zero. -/
def leadingExponent (d : Decimal) : Int :=
  if d.digits == 0 then 0 else d.exponent + ((Nat.toDigits 10 d.digits).length : Int) - 1

/-- The number `num / den` with `count` significant digits, a half going up. -/
def rounded (count num den : Nat) : Decimal :=
  if num == 0 then ⟨0, 0⟩
  else
    let e := floorLog10 num den + 1 - count
    let (up, down) := powerOfTen e
    normalize ⟨Binary.divHalfUp (num * down) (den * up), e⟩

end Decimal

/-- The interval of the numbers that round to a given one, all as multiples of `1 / den`. -/
structure RoundingInterval where
  low : Nat
  value : Nat
  high : Nat
  den : Nat
  closed : Bool

/-- The interval of the numbers that round to `mantissa * 2 ^ exponent`. Below a power of two the
next number is only half as far away; the ends belong to the interval if the mantissa is even. -/
def Binary.Format.interval (f : Binary.Format) (mantissa : Nat) (exponent : Int) :
    RoundingInterval :=
  let (up, den) := Binary.powerOfTwo (exponent - 2)
  let below := if mantissa == twoTo f.fractionBits && exponent > f.leastExponent then 1 else 2
  { low := (4 * mantissa - below) * up
    value := 4 * mantissa * up
    high := (4 * mantissa + 2) * up
    den := den
    closed := mantissa % 2 == 0 }

/-- The nearer of the two neighbours `d` and `d + 1` of the value, in units of `up / down`. -/
def RoundingInterval.nearer (r : RoundingInterval) (tie : Tie) (d up down : Nat) : Nat :=
  match compare (2 * r.value * down) ((2 * d + 1) * up * r.den), tie with
  | .lt, _ => d
  | .gt, _ => d + 1
  | .eq, .up => d + 1
  | .eq, .toEven => if d % 2 == 0 then d else d + 1

/-- The decimal with `count` digits inside the interval that is nearest to the value. -/
def RoundingInterval.withDigits? (r : RoundingInterval) (tie : Tie) (count : Nat) :
    Option Decimal :=
  let e := Decimal.floorLog10 r.value r.den + 1 - count
  let (up, down) := Decimal.powerOfTen e
  let d := r.value * down / (r.den * up)
  let lowEnd := r.low * down
  let highEnd := r.high * down
  let lower := d * up * r.den
  let upper := (d + 1) * up * r.den
  let lowerIn : Bool := if r.closed then lowEnd ≤ lower else lowEnd < lower
  let upperIn : Bool := if r.closed then upper ≤ highEnd else upper < highEnd
  match lowerIn, upperIn with
  | true, true => some ⟨r.nearer tie d up down, e⟩
  | true, false => some ⟨d, e⟩
  | false, true => some ⟨d + 1, e⟩
  | false, false => none

/-- The first count of digits from `count` on, at most `fuel` of them, that has a decimal inside
the interval. -/
def RoundingInterval.search (r : RoundingInterval) (tie : Tie) : Nat → Nat → Decimal
  | 0, count => Decimal.rounded count r.value r.den
  | fuel + 1, count => (r.withDigits? tie count).getD (r.search tie fuel (count + 1))

/-- The decimal with the fewest digits that rounds to `mantissa * 2 ^ exponent`, and among those the
nearest to it. Seventeen digits are enough for every format of at most 64 bits. -/
def Binary.Format.shortest (f : Binary.Format) (tie : Tie) (mantissa : Nat) (exponent : Int) :
    Decimal :=
  if mantissa == 0 then ⟨0, 0⟩
  else ((f.interval mantissa exponent).search tie 17 1).normalize

end TypedQuery
