import TypedQuery.Engine.Affinity
import TypedQuery.Engine.Fault
import TypedQuery.Filter.Operator

/-!
# Aggregation

The aggregates of a list of values. Values that are nothing are skipped, and with `distinct` every
value counts once. A sum of integers is an integer and must not overflow; as soon as another number
is met it goes on in floating point, where the rounding error of each addition is kept and added at
the end.
-/

set_option autoImplicit false

namespace TypedQuery.Engine

/-- The values without repetitions. -/
def distinctCells : List Cell → List Cell
  | [] => []
  | c :: rest => c :: (distinctCells rest).filter fun d => !sameCells c d

/-- A sum in floating point with the rounding errors of its additions. -/
structure RunningSum where
  total : Double
  error : Double

namespace RunningSum

/-- Whether the magnitude of the first number is greater. -/
def outweighs (x y : Double) : Bool := x.abs.compare? y.abs == some .gt

/-- The sum with one more number. -/
def add (s : RunningSum) (x : Double) : RunningSum :=
  let total := s.total.add x
  let lost :=
    if outweighs s.total x then (s.total.sub total).add x else (x.sub total).add s.total
  ⟨total, s.error.add lost⟩

/-- An integer as a large part that is exact and a small rest. -/
def splitInteger (n : Int) : Int × Int :=
  if n ≤ -4503599627370496 || 4503599627370496 ≤ n then (n - n.tmod 16384, n.tmod 16384) else (n, 0)

/-- A sum that starts with an integer. -/
def ofInt (n : Int) : RunningSum :=
  let (large, small) := splitInteger n
  ⟨Double.ofInt large, Double.ofInt small⟩

/-- The sum with one more integer. -/
def addInt (s : RunningSum) (n : Int) : RunningSum :=
  let (large, small) := splitInteger n
  if small == 0 then s.add (Double.ofInt large)
  else (s.add (Double.ofInt large)).add (Double.ofInt small)

/-- The value of the sum. An error that is no finite number is left out. -/
def value (s : RunningSum) : Double :=
  match s.error.datum with
  | .finite .. => s.total.add s.error
  | _ => s.total

end RunningSum

/-- A sum in progress: exact as long as only integers are met. -/
inductive Sum where
  | exact (n : Int64)
  | rounded (sum : RunningSum) (overflowed : Bool)

namespace Sum

/-- A cell as the number it is summed as. -/
def summand : Cell → Cell
  | .text bytes => (numeral? bytes).getD (.real (leadingValue bytes))
  | .blob bytes => .real (leadingValue bytes)
  | c => c

/-- The sum with one more value. -/
def add (s : Sum) (c : Cell) : Sum :=
  match s, summand c with
  | .exact n, .integer m =>
    let sum := n.toInt + m.toInt
    if Int64.minValue.toInt ≤ sum && sum ≤ Int64.maxValue.toInt then .exact (Int64.ofInt sum)
    else .rounded ((RunningSum.ofInt n.toInt).addInt m.toInt) true
  | .exact n, .real x => .rounded ((RunningSum.ofInt n.toInt).add x) false
  | .rounded sum overflowed, .integer m => .rounded (sum.addInt m.toInt) overflowed
  | .rounded sum _, .real x => .rounded (sum.add x) false
  | s, _ => s

/-- The sum of a list of values. -/
def ofCells (cells : List Cell) : Sum := cells.foldl add (.exact 0)

/-- The sum as a floating-point number. -/
def toDouble : Sum → Double
  | .exact n => Double.ofInt n.toInt
  | .rounded sum _ => sum.value

/-- The sum as a value; fails if integers alone have overflowed. -/
def toCell : Sum → Except Fault Cell
  | .exact n => .ok (.integer n)
  | .rounded _ true => .error .integerOverflow
  | .rounded sum false => .ok (.real sum.value)

end Sum

/-- The value of a list that comes first in an order, the earlier one of two that are equal. -/
def extreme (before : Cell → Cell → Bool) : List Cell → Cell
  | [] => .null
  | c :: rest => rest.foldl (fun best d => if before d best then d else best) c

/-- The aggregate of a list of values. -/
def aggregate (function : Aggregate) (distinct : Bool) (cells : List Cell) : Except Fault Cell :=
  let present := cells.filter (· != .null)
  let values := if distinct then distinctCells present else present
  match function with
  | .count => .ok (.integer (Int64.ofNat values.length))
  | .min => .ok (extreme (fun a b => compareCells a b == .lt) values)
  | .max => .ok (extreme (fun a b => compareCells a b == .gt) values)
  | .sum =>
    if values.isEmpty then .ok .null
    else ((Sum.ofCells values).toCell).map fun
      | .real x => realOrNull x
      | c => c
  | .avg =>
    if values.isEmpty then .ok .null
    else .ok (realOrNull ((Sum.ofCells values).toDouble.divNat values.length))
  | .total => .ok (realOrNull (Sum.ofCells values).toDouble)

end TypedQuery.Engine
