import TypedQuery.Engine.Aggregation
import TypedQuery.Engine.Frame

/-!
# Groups

The rows that a row of a result is made of. Aggregates are computed of all rows of a group; a column
outside them is read from one row, which is shown for the group. That is the row in which the last
of the least or greatest values was found, if the selection asks for such values, and otherwise the
first row.
-/

set_option autoImplicit false

namespace TypedQuery.Engine

/-- A group of rows and the one that is shown for it; an empty group shows none. -/
structure Group where
  rows : List (List Value)
  shown : Option (List Value)

/-- The group of a single row. -/
def Group.ofRow (row : List Value) : Group := ⟨[row], some row⟩

/-- Whether the first cell takes the place of the second one as the extreme value. -/
def replacesExtreme : Aggregate → Cell → Cell → Bool
  | .max, c, best => compareCells c best == .gt
  | .min, c, best => compareCells c best == .lt
  | _, _, _ => false

/-- A search for the least or the greatest value of a column: the best value so far, and all values
met. -/
structure ExtremeSearch where
  function : Aggregate
  column : Column
  distinct : Bool
  best : Option Cell
  met : List Cell

namespace ExtremeSearch

/-- The search that an expression asks for before the first row. -/
def ofExpr? : Expr → Option ExtremeSearch
  | .aggregate .min c distinct => some ⟨.min, c, distinct, none, []⟩
  | .aggregate .max c distinct => some ⟨.max, c, distinct, none, []⟩
  | _ => none

/-- Whether a value counts as found: it is better than the best one so far, or there is none. -/
def finds (s : ExtremeSearch) (c : Cell) : Bool :=
  match s.best with
  | none => true
  | some best => c != .null && replacesExtreme s.function c best

/-- The search after a value, and whether the value was found. A distinct search says nothing about
a value it has met. -/
def visit (s : ExtremeSearch) (c : Cell) : ExtremeSearch × Option Bool :=
  if s.distinct && s.met.any (sameCells c) then (s, none)
  else
    let found := s.finds c
    let best := if found && c != .null then some c else s.best
    ({ s with best, met := c :: s.met }, some found)

/-- Visits one row with all searches. The last search that says something decides. -/
def visitRow (fields : List FrameField) (row : List Value) (found : Bool) :
    List ExtremeSearch → Except Fault (List ExtremeSearch × Bool)
  | [] => .ok ([], found)
  | s :: searches => do
    let (s, said) := s.visit (← valueOf fields s.column row)
    let (searches, found) ← visitRow fields row (said.getD found) searches
    return (s :: searches, found)

/-- The last row in which a value was found. -/
def lastFound (fields : List FrameField) (searches : List ExtremeSearch) (found : Bool)
    (shown : Option (List Value)) : List (List Value) → Except Fault (Option (List Value))
  | [] => .ok shown
  | row :: rows => do
    let (searches, found) ← visitRow fields row found searches
    lastFound fields searches found (if found then some row else shown) rows

end ExtremeSearch

/-- The group of rows for a selection with the given expressions. -/
def Group.ofRows (fields : List FrameField) (exprs : List Expr) (rows : List (List Value)) :
    Except Fault Group := do
  match exprs.eraseDups.filterMap ExtremeSearch.ofExpr? with
  | [] => return ⟨rows, rows.head?⟩
  | searches => return ⟨rows, ← ExtremeSearch.lastFound fields searches true none rows⟩

end TypedQuery.Engine
