import TypedQuery.Engine.Group

/-!
# Conditions

The value of expressions and filters for a group of rows; a single row is a group of one. A
comparison is true, false or unknown, and unknown if one side is nothing. A filter has no negation,
so only what is true has to be told from the rest.
-/

set_option autoImplicit false

namespace TypedQuery.Engine

/-- The values that are bound to the parameters of a statement. A parameter that was never bound is
nothing. -/
abbrev Bindings := Nat → Cell

/-- No parameter is bound. -/
def Bindings.none : Bindings := fun _ => .null

/-- A parameter bound to a cell. -/
def Bindings.set (b : Bindings) (index : Nat) (c : Cell) : Bindings := fun i =>
  if i = index then taken c else b i

/-- The value of an expression for a group of rows. A column has the value it has in the row that is
shown, and is nothing if there is none. -/
def evalExpr (fields : List FrameField) (group : Group) : Expr → Value
  | .column c => (group.shown.map (valueOf fields c)).getD (.ok .null)
  | .aggregate function c distinct => do
    aggregate function distinct (← group.rows.mapM (valueOf fields c))

/-- The affinity of an expression. -/
def exprAffinity (fields : List FrameField) : Expr → Option Affinity
  | .column c => affinityOf fields c
  | .aggregate .. => none

/-- Whether a comparison holds of two values in this order. -/
def holds : Comparison → Ordering → Bool
  | .eq, o => o == .eq
  | .ne, o => o != .eq
  | .lt, o => o == .lt
  | .gt, o => o == .gt
  | .le, o => o != .gt
  | .ge, o => o != .lt

/-- A comparison of two values; unknown if one of them is nothing. -/
def compareValues (op : Comparison) (affinity : Option Affinity) (a b : Cell) : Option Bool :=
  match convertSides affinity a b with
  | (.null, _) | (_, .null) => none
  | (a, b) => some (holds op (compareCells a b))

/-- A comparison with the literal NULL: a test where there is one, and otherwise unknown. -/
def compareNull (op : Comparison) (c : Cell) : Option Bool :=
  match op with
  | .eq => some (c == .null)
  | .ne => some (c != .null)
  | _ => none

/-- Whether a filter is true for a group of rows. The right side of a connective is looked at only
if the left one does not decide. -/
def isTrue (fields : List FrameField) (bindings : Bindings) (group : Group) :
    Filter → Except Fault Bool
  | .compare op expr (.param p) valueFirst => do
    let c ← evalExpr fields group expr
    let affinity := comparisonAffinity (exprAffinity fields expr) none
    let value := bindings p.index
    let truth := if valueFirst then compareValues op affinity value c
      else compareValues op affinity c value
    return truth == some true
  | .compare op expr .null _ => do
    return compareNull op (← evalExpr fields group expr) == some true
  | .columns op left right => do
    let a ← evalExpr fields group (.column left)
    let b ← evalExpr fields group (.column right)
    let affinity := comparisonAffinity (affinityOf fields left) (affinityOf fields right)
    return compareValues op affinity a b == some true
  | .like column pattern => do
    let c ← evalExpr fields group (.column column)
    return like? c (bindings pattern.index) == some true
  | .logical .and left right => do
    if ← isTrue fields bindings group left then isTrue fields bindings group right else return false
  | .logical .or left right => do
    if ← isTrue fields bindings group left then return true else isTrue fields bindings group right

/-- Whether a group passes a clause; without a clause it does. -/
def passes (fields : List FrameField) (bindings : Bindings) (clause : Option Filter)
    (group : Group) : Except Fault Bool :=
  match clause with
  | none => .ok true
  | some filter => isTrue fields bindings group filter

end TypedQuery.Engine
