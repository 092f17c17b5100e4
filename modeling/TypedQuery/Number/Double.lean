import TypedQuery.Number.Binary

/-!
# Floating-point numbers

`Double` and `Single` are the numbers of the 64-bit and the 32-bit format, each given by its bit
pattern. Arithmetic computes the exact result on integers and rounds it once.
-/

set_option autoImplicit false

namespace TypedQuery

open Binary (Datum binary64 binary32 powerOfTwo)

/-- A number of the 64-bit binary format. -/
structure Double where
  bits : UInt64
  deriving DecidableEq, Repr

/-- A number of the 32-bit binary format. -/
structure Single where
  bits : UInt32
  deriving DecidableEq, Repr

namespace Double

/-- What the number stands for. -/
def datum (x : Double) : Datum := binary64.datum x.bits.toNat

/-- The nearest number to a datum. -/
def ofDatum (d : Datum) : Double := ⟨UInt64.ofNat (binary64.pattern d)⟩

/-- The nearest number to `± num / den`. -/
def ofRatio (negative : Bool) (num den : Nat) : Double :=
  ⟨UInt64.ofNat (binary64.nearest negative num den)⟩

/-- The nearest number to an integer. -/
def ofInt (n : Int) : Double := ofRatio (n < 0) n.natAbs 1

/-- Positive zero. -/
def zero : Double := ⟨0⟩

/-- Whether the bits are those of a not-a-number. -/
def isNaN (x : Double) : Bool := x.datum == .nan

/-- The signed numerator and the denominator of a finite datum. -/
def ratio (negative : Bool) (mantissa : Nat) (exponent : Int) : Int × Nat :=
  let (up, down) := powerOfTwo exponent
  ((if negative then -1 else 1) * (mantissa * up : Nat), down)

/-- The order of two ratios with positive denominators. -/
def compareRatios (a b : Int × Nat) : Ordering := compare (a.1 * b.2) (b.1 * a.2)

/-- The numeric order; a not-a-number is comparable with nothing. The two zeros are equal. -/
def compare? (x y : Double) : Option Ordering :=
  match x.datum, y.datum with
  | .nan, _ => none
  | _, .nan => none
  | .infinity a, .infinity b => some (compare b.toNat a.toNat)
  | .infinity negative, _ => some (if negative then .lt else .gt)
  | _, .infinity negative => some (if negative then .gt else .lt)
  | .finite s m e, .finite s' m' e' => some (compareRatios (ratio s m e) (ratio s' m' e'))

/-- The numeric order of a number and an integer, without rounding the integer. -/
def compareInt? (x : Double) (n : Int) : Option Ordering :=
  match x.datum with
  | .nan => none
  | .infinity negative => some (if negative then .lt else .gt)
  | .finite s m e => some (compareRatios (ratio s m e) (n, 1))

/-- The integer part of a finite number; `none` for infinities and not-a-numbers. -/
def truncate? (x : Double) : Option Int :=
  match x.datum with
  | .finite s m e =>
    let (up, down) := powerOfTwo e
    let whole : Nat := m * up / down
    some (if s then -whole else whole)
  | _ => none

/-- The value as a 64-bit integer: fractions are cut off, what is too large becomes the nearest
bound, and a not-a-number becomes zero. -/
def toInt64 (x : Double) : Int64 :=
  match x.datum with
  | .nan => 0
  | .infinity negative => if negative then Int64.minValue else Int64.maxValue
  | .finite .. =>
    let n := x.truncate?.getD 0
    if n < Int64.minValue.toInt then Int64.minValue
    else if n > Int64.maxValue.toInt then Int64.maxValue
    else Int64.ofInt n

/-- The number with the sign removed. -/
def abs (x : Double) : Double := ⟨x.bits &&& 0x7FFFFFFFFFFFFFFF⟩

/-- The number with the opposite sign. -/
def neg (x : Double) : Double := ⟨x.bits ^^^ 0x8000000000000000⟩

/-- The rounded sum. A sum of zero is negative only if both terms are. -/
def add (x y : Double) : Double :=
  match x.datum, y.datum with
  | .nan, _ => ofDatum .nan
  | _, .nan => ofDatum .nan
  | .infinity a, .infinity b => if a == b then x else ofDatum .nan
  | .infinity _, _ => x
  | _, .infinity _ => y
  | .finite s m e, .finite s' m' e' =>
    let (n, d) := ratio s m e
    let (n', d') := ratio s' m' e'
    let sum := n * d' + n' * d
    if sum == 0 then ofRatio (s && s') 0 1 else ofRatio (sum < 0) sum.natAbs (d * d')

/-- The rounded difference. -/
def sub (x y : Double) : Double := x.add y.neg

/-- The quotient by a positive natural number, rounded. -/
def divNat (x : Double) (n : Nat) : Double :=
  match x.datum with
  | .finite s m e =>
    let (up, down) := powerOfTwo e
    ofRatio s (m * up) (down * n)
  | _ => x

end Double

namespace Single

/-- What the number stands for. -/
def datum (x : Single) : Datum := binary32.datum x.bits.toNat

/-- The number in the 64-bit format, where it is exact. -/
def toDouble (x : Single) : Double := Double.ofDatum x.datum

/-- The nearest 32-bit number. -/
def ofDouble (x : Double) : Single := ⟨UInt32.ofNat (binary32.pattern x.datum)⟩

/-- Positive zero. -/
def zero : Single := ⟨0⟩

end Single

end TypedQuery
