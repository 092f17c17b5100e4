import TypedQuery.Number.Double
import TypedQuery.Number.Shortest

/-!
# The written forms of a number

A `Layout` fixes everything about the written form of a floating-point number that its digits
leave open: when it is written positionally, whether whole numbers end in `.0`, and how an
exponent looks. The forms that this library writes are the values `plain`, `inspected`, `json`
and `sql`.
-/

set_option autoImplicit false

namespace TypedQuery

/-- The decisions of a written form. -/
structure Layout where
  /-- Whether a number whose leading digit has this exponent is written positionally. -/
  positional : Int → Bool
  /-- Whole numbers end in `.0`. -/
  wholePoint : Bool
  /-- A single digit before an exponent is followed by `.0`. -/
  mantissaPoint : Bool
  /-- A positive exponent has a plus sign. -/
  plusSign : Bool
  /-- The least count of digits of an exponent. -/
  exponentWidth : Nat
  /-- Which of two equally near shortest forms is taken. -/
  tie : Tie
  /-- A negative zero has a sign. -/
  zeroSign : Bool
  /-- The texts for what is not finite, by sign. -/
  nan : String
  infinity : Bool → String

namespace Layout

/-- Digits with the point after the first `whole` of them, zeros being added on either side. -/
def positionalText (l : Layout) (ds : List Char) (exponent : Int) : List Char :=
  if exponent ≥ 0 then
    ds ++ List.replicate exponent.toNat '0' ++ (if l.wholePoint then ['.', '0'] else [])
  else
    let places := (-exponent).toNat
    if places < ds.length then
      ds.take (ds.length - places) ++ '.' :: ds.drop (ds.length - places)
    else '0' :: '.' :: List.replicate (places - ds.length) '0' ++ ds

/-- An exponent with its sign. -/
def exponentText (l : Layout) (e : Int) : List Char :=
  let ds := Nat.toDigits 10 e.natAbs
  (if e < 0 then ['-'] else if l.plusSign then ['+'] else [])
    ++ List.replicate (l.exponentWidth - ds.length) '0' ++ ds

/-- One digit before the point, and the exponent after an `e`. -/
def scientificText (l : Layout) (ds : List Char) (e : Int) : List Char :=
  let mantissa := match ds with
    | [] => []
    | [d] => if l.mantissaPoint then [d, '.', '0'] else [d]
    | d :: rest => d :: '.' :: rest
  mantissa ++ 'e' :: l.exponentText e

/-- A decimal with its sign. -/
def decimalText (l : Layout) (negative : Bool) (d : Decimal) : String :=
  let ds := Nat.toDigits 10 d.digits
  let e := d.leadingExponent
  let body := if l.positional e then l.positionalText ds d.exponent else l.scientificText ds e
  String.ofList ((if negative && (l.zeroSign || d.digits != 0) then ['-'] else []) ++ body)

/-- The shortest text that reads back as the datum. -/
def shortestText (l : Layout) (f : Binary.Format) : Binary.Datum → String
  | .nan => l.nan
  | .infinity negative => l.infinity negative
  | .finite negative m e => l.decimalText negative (f.shortest l.tie m e)

/-- The text with at most `count` significant digits. -/
def significantText (l : Layout) (count : Nat) : Binary.Datum → String
  | .nan => l.nan
  | .infinity negative => l.infinity negative
  | .finite negative m e =>
    let (up, down) := Binary.powerOfTwo e
    l.decimalText negative (Decimal.rounded count (m * up) down)

/-- Numbers for a reader: always positional, whole numbers without a point. -/
def plain : Layout where
  positional := fun _ => true
  wholePoint := false
  mantissaPoint := false
  plusSign := false
  exponentWidth := 1
  tie := .up
  zeroSign := true
  nan := "NaN"
  infinity := fun negative => if negative then "-inf" else "inf"

/-- Numbers for inspection: whole numbers keep a point, and an exponent is used from `1e16` on and
below `1e-4`. -/
def inspected : Layout :=
  { plain with positional := fun e => -4 ≤ e && e ≤ 15, wholePoint := true }

/-- Numbers in JSON: an exponent always has a sign, and what is not finite is `null`. -/
def json : Layout where
  positional := fun e => -5 ≤ e && e ≤ 15
  wholePoint := true
  mantissaPoint := false
  plusSign := true
  exponentWidth := 1
  tie := .toEven
  zeroSign := true
  nan := "null"
  infinity := fun _ => "null"

/-- Numbers as the engine writes them, with fifteen significant digits. -/
def sql : Layout where
  positional := fun e => -4 ≤ e && e ≤ 14
  wholePoint := true
  mantissaPoint := true
  plusSign := true
  exponentWidth := 2
  tie := .up
  zeroSign := false
  nan := "NaN"
  infinity := fun negative => if negative then "-Inf" else "Inf"

end Layout

/-- The number for a reader. -/
def Double.plainText (x : Double) : String := Layout.plain.shortestText Binary.binary64 x.datum

/-- The number for inspection. -/
def Double.inspectedText (x : Double) : String :=
  Layout.inspected.shortestText Binary.binary64 x.datum

/-- The number in JSON. -/
def Double.jsonText (x : Double) : String := Layout.json.shortestText Binary.binary64 x.datum

/-- The number as the engine writes it. -/
def Double.sqlText (x : Double) : String := Layout.sql.significantText 15 x.datum

/-- The number for inspection, with the digits that the 32-bit format needs. -/
def Single.inspectedText (x : Single) : String :=
  Layout.inspected.shortestText Binary.binary32 x.datum

end TypedQuery
