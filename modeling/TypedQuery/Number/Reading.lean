import TypedQuery.Number.Double
import TypedQuery.Text.Classes

/-!
# Reading numbers

Numbers in texts: integers of 64 bits and decimals. Both take an optional sign; a decimal takes a
point with digits on at least one side, an exponent, and the words `inf`, `infinity` and `nan`.
-/

set_option autoImplicit false

namespace TypedQuery.Number

open TypedQuery.Text (isDigit digitValue lowerAscii)

/-- The value of a list of digits. -/
def digitsValue (ds : List Char) : Nat := ds.foldl (fun n d => 10 * n + digitValue d) 0

/-- Splits off a sign; `true` is minus. -/
def splitSign : List Char → Bool × List Char
  | '-' :: rest => (true, rest)
  | '+' :: rest => (false, rest)
  | cs => (false, cs)

/-- An integer within the bounds of 64 bits. -/
def int64? (cs : List Char) : Option Int64 :=
  let (negative, ds) := splitSign cs
  if ds.isEmpty || !ds.all isDigit then none
  else
    let n : Int := if negative then -(digitsValue ds : Int) else digitsValue ds
    if Int64.minValue.toInt ≤ n && n ≤ Int64.maxValue.toInt then some (Int64.ofInt n) else none

/-- The number nearest to `± digits * 10 ^ exponent`. Exponents far beyond the range of the format
are decided without computing the power. -/
def decimalValue (negative : Bool) (digits : Nat) (exponent : Int) : Double :=
  let size : Int := (Nat.toDigits 10 digits).length + exponent
  if digits == 0 || size < -400 then Double.ofRatio negative 0 1
  else if size > 400 then Double.ofDatum (.infinity negative)
  else Double.ofRatio negative (digits * tenTo exponent.toNat) (tenTo (-exponent).toNat)

/-- The digits at the start of a text and what follows them. -/
def spanDigits (cs : List Char) : List Char × List Char := cs.span isDigit

/-- The parts of a decimal without its sign: the digits, the exponent that puts the point in its
place, and what follows. There is at least one digit. -/
def unsignedDecimal? (cs : List Char) : Option (Nat × Int × List Char) :=
  let (whole, rest) := spanDigits cs
  let (fraction, rest) := match rest with
    | '.' :: after => spanDigits after
    | _ => ([], rest)
  if whole.isEmpty && fraction.isEmpty then none
  else
    let digits := digitsValue (whole ++ fraction)
    let places : Int := fraction.length
    match rest with
    | e :: after =>
      if e == 'e' || e == 'E' then
        let (negative, ds) := splitSign after
        let (ds, rest') := spanDigits ds
        if ds.isEmpty then some (digits, -places, rest)
        else
          let shift : Int := digitsValue ds
          some (digits, (if negative then -shift else shift) - places, rest')
      else some (digits, -places, rest)
    | [] => some (digits, -places, [])

/-- A floating-point number, the whole text being one. -/
def double? (cs : List Char) : Option Double :=
  let (negative, body) := splitSign cs
  match String.ofList (body.map lowerAscii) with
  | "inf" | "infinity" => some (Double.ofDatum (.infinity negative))
  | "nan" => some (Double.ofDatum .nan)
  | _ =>
    match unsignedDecimal? body with
    | some (digits, exponent, []) => some (decimalValue negative digits exponent)
    | _ => none

end TypedQuery.Number
