import TypedQuery.Number.Reading
import TypedQuery.Value.Cell

/-!
# Affinity

A column prefers one class of values. What is stored in it is converted to that class where nothing
is lost, and so is what a column is compared with. `Affinity.ofDeclared` is the rule for the declared
type, `Affinity.store` the conversion of stored values.
-/

set_option autoImplicit false

namespace TypedQuery.Engine

/-- The class of values that a column prefers. -/
inductive Affinity where
  | integer
  | text
  | blob
  | real
  | numeric
  deriving DecidableEq, Repr

namespace Affinity

/-- The affinity of a declared type: the first class one of whose words occurs in it. -/
def ofDeclared (declared : String) : Affinity :=
  if TypeTag.mentions declared ["INT"] then .integer
  else if TypeTag.mentions declared ["CHAR", "CLOB", "TEXT"] then .text
  else if declared.isEmpty || TypeTag.mentions declared ["BLOB"] then .blob
  else if TypeTag.mentions declared ["REAL", "FLOA", "DOUB"] then .real
  else .numeric

/-- Whether the class is one of numbers. -/
def isNumeric : Affinity → Bool
  | .integer | .real | .numeric => true
  | .text | .blob => false

end Affinity

/-- The white space that a number may be surrounded with. -/
def isNumberBlank (c : Char) : Bool :=
  c == ' ' || c == '\t' || c == '\n' || c == '\r' || c == '\x0b' || c == '\x0c'

/-- The bytes as characters, one each. -/
def byteChars (bytes : Bytes) : List Char := bytes.map fun b => Char.ofNat b.toNat

/-- The number at the start of a text, whether it is written as an integer, and what follows. -/
def leadingNumber? (bytes : Bytes) : Option (Double × Bool × List Char) :=
  let cs := (byteChars bytes).dropWhile isNumberBlank
  let (negative, body) := Number.splitSign cs
  let (whole, afterWhole) := Number.spanDigits body
  (Number.unsignedDecimal? body).map fun (digits, exponent, rest) =>
    (Number.decimalValue negative digits exponent,
      !whole.isEmpty && afterWhole.length == rest.length, rest)

/-- The number that a whole text spells, if it spells one: an integer if it is written as one that
fits, and otherwise a real number. This is the real number nearest to the text. It is an assumption
on texts of more than nineteen digits: the engine drops what it does not need of them, so that it may
arrive at a neighbour. -/
def numeral? (bytes : Bytes) : Option Cell :=
  match leadingNumber? bytes with
  | some (x, isInteger, rest) =>
    if !rest.all isNumberBlank then none
    else if isInteger then
      let cs := (byteChars bytes).filter fun c => !isNumberBlank c
      some (((Number.int64? cs).map Cell.integer).getD (.real x))
    else some (.real x)
  | none => none

/-- The value of the number at the start of a text, zero if there is none. -/
def leadingValue (bytes : Bytes) : Double := ((leadingNumber? bytes).map fun r => r.1).getD Double.zero

/-- A floating-point number as a value; what is no number is nothing. -/
def realOrNull (x : Double) : Cell := if x.isNaN then .null else .real x

/-- A value as the engine takes it. -/
def taken : Cell → Cell
  | .real x => realOrNull x
  | c => c

/-- The integer that equals a real number. The two bounds of the integers do not count. -/
def exactInteger? (x : Double) : Option Int64 := do
  let n ← x.truncate?
  if Int64.minValue.toInt < n && n < Int64.maxValue.toInt && x.compareInt? n == some .eq then
    some (Int64.ofInt n)
  else none

/-- A real number as an integer where that is exact. -/
def preferInteger : Cell → Cell
  | .real x => ((exactInteger? x).map Cell.integer).getD (.real x)
  | c => c

/-- A text that spells a number as that number. -/
def preferNumber : Cell → Cell
  | .text bytes => (numeral? bytes).getD (.text bytes)
  | c => c

/-- A number as a text. -/
def preferText : Cell → Cell
  | .integer n => .text (Utf8.encode (toString n.toInt))
  | .real x => .text (Utf8.encode x.sqlText)
  | c => c

/-- An integer as a real number. -/
def preferReal : Cell → Cell
  | .integer n => .real (Double.ofInt n.toInt)
  | c => c

/-- A value as a column with the affinity stores it. In a column of real numbers those without a
fraction pass through an integer, so zero has no sign there. -/
def Affinity.store : Affinity → Cell → Cell
  | .integer, c | .numeric, c => preferInteger (preferNumber c)
  | .real, c => preferReal (preferInteger (preferNumber c))
  | .text, c => preferText c
  | .blob, c => c

/-- The place of a class in the order of values. -/
def classRank : Cell → Nat
  | .null => 0
  | .integer _ | .real _ => 1
  | .text _ => 2
  | .blob _ => 3

/-- The order of values: nothing comes first, then numbers by value, then texts, then blobs. What is
no number, which the engine never holds, comes before all numbers. -/
def compareCells : Cell → Cell → Ordering
  | .integer m, .integer n => compare m.toInt n.toInt
  | .integer m, .real y => ((y.compareInt? m.toInt).map Ordering.swap).getD .gt
  | .real x, .integer n => (x.compareInt? n.toInt).getD .lt
  | .real x, .real y => (x.compare? y).getD (compare y.isNaN.toNat x.isNaN.toNat)
  | .text a, .text b => Bytes.compare a b
  | .blob a, .blob b => Bytes.compare a b
  | a, b => compare (classRank a) (classRank b)

/-- Whether two values are the same for grouping and for unique columns. -/
def sameCells (a b : Cell) : Bool := compareCells a b == .eq

/-- How the two sides of a comparison are converted first, given their affinities. A side that is no
column has none. -/
def comparisonAffinity : Option Affinity → Option Affinity → Option Affinity
  | some a, some b => if a.isNumeric || b.isNumeric then some .numeric else none
  | some a, none | none, some a => some a
  | none, none => none

/-- The two sides of a comparison after the conversion. -/
def convertSides (affinity : Option Affinity) (a b : Cell) : Cell × Cell :=
  match affinity with
  | some .text =>
    match a, b with
    | .text _, _ | _, .text _ => (preferText a, preferText b)
    | _, _ => (a, b)
  | some .blob | none => (a, b)
  | some _ => (preferNumber a, preferNumber b)

end TypedQuery.Engine
