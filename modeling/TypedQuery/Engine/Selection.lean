import TypedQuery.Engine.Join
import TypedQuery.Engine.Ordering
import TypedQuery.Query.Select

/-!
# Selections

How the engine runs a selection. Rows come from the relation, pass the filter, are put into groups,
sorted and cut. Selections that are combined are read as they are written: the set operators bind
equally and group to the left.

The result is a `Traversal`. Rows of a table come in the order of their numbers, and a selection or
a grouping by these numbers is not sorted again: like a selection that is not sorted at all it
delivers rows before it has looked at all of them. Groups are delivered as they are complete, unless
they have to be sorted. Everything else has to look at all rows first.
-/

set_option autoImplicit false

namespace TypedQuery.Engine

/-- Whether an expression is an aggregate. -/
def isAggregate : Expr → Bool
  | .column _ => false
  | .aggregate .. => true

/-- The expressions of a filter that are compared with values. -/
def comparedExprs : Filter → List Expr
  | .compare _ expr _ _ => [expr]
  | .columns .. | .like .. => []
  | .logical _ left right => comparedExprs left ++ comparedExprs right

/-- The terms of the ordering of a selection. -/
def termsOf (p : SelectPart) : List OrderTerm := (p.orderBy.map OrderBy.terms).getD []

/-- The expressions that are computed for the groups of a selection: the result columns, then what
the groups are sorted by, then what they are filtered by. -/
def exprsOf (p : SelectPart) : List Expr :=
  p.columns.map ResultColumn.expr ++ (termsOf p).map OrderTerm.expr
    ++ (p.having.map comparedExprs).getD []

/-- Whether a selection makes one row of several. -/
def isGrouping (p : SelectPart) : Bool :=
  p.groupBy.isSome || (exprsOf p).any isAggregate

/-- The values of the result columns for a group. -/
def resultRow (fields : List FrameField) (columns : List ResultColumn) (group : Group) :
    Except Fault (List Cell) :=
  columns.mapM fun c => evalExpr fields group c.expr

/-- The values of the terms of an ordering for a group. -/
def termValues (fields : List FrameField) (terms : List OrderTerm) (group : Group) :
    Except Fault (List Cell) :=
  terms.mapM fun term => evalExpr fields group term.expr

/-! ## The order in which rows come -/

/-- The column of a term that is one. -/
def termColumn? (term : OrderTerm) : Option Column :=
  match term.expr with
  | .column c => some c
  | .aggregate .. => none

/-- The direction in which rows have to be looked at to come in an ordering by their numbers; nothing
if the ordering does not begin with the numbers. Since no two rows have the same number, further
terms do not matter. -/
def numberDirection? (fields : List FrameField) : List OrderTerm → Option Direction
  | [] => none
  | term :: _ =>
    if (termColumn? term).any (isRowNumber fields) then some term.direction else none

/-- Rows in the order of their numbers, looked at in a direction. -/
def inDirection {α : Type} (direction : Direction) (rows : List α) : List α :=
  match direction with
  | .ascending => rows
  | .descending => rows.reverse

/-- Whether a term places what is nothing where the direction places it anyway. -/
def placesNullsAsUsual (term : OrderTerm) : Bool :=
  match term.nulls, term.direction with
  | none, _ | some .first, .ascending | some .last, .descending => true
  | _, _ => false

/-- Whether an ordering is the one in which the groups of the columns are made. -/
def ordersGroups (fields : List FrameField) : List Column → List OrderTerm → Bool
  | [], [] => true
  | c :: columns, term :: terms =>
    (termColumn? term).any (fun d => fieldIndex? fields c == fieldIndex? fields d)
      && placesNullsAsUsual term && ordersGroups fields columns terms
  | _, _ => false

/-! ## Groups -/

/-- The ordering that groups are made in. It takes its directions from the ordering of the selection
if that has as many terms, and is ascending otherwise. -/
def groupTerms (columns : List Column) (terms : List OrderTerm) : List OrderTerm :=
  if columns.length = terms.length then
    (columns.zip terms).map fun (c, term) => ⟨.column c, term.direction, none⟩
  else columns.map fun c => ⟨.column c, .ascending, none⟩

/-- The groups of rows that agree in the columns, sorted by the values of these. -/
def sortedGroups (fields : List FrameField) (columns : List Column) (terms : List OrderTerm)
    (rows : List (List Value)) : Except Fault (List (List (List Value))) := do
  let keyed ← rows.mapM fun row => do return (← columns.mapM fun c => valueOf fields c row, row)
  let before := compareByTerms (groupTerms columns terms)
  return gather (keyed.mergeSort fun a b => (before a.1 b.1).isLE)

/-- Every row as a group of its own. A group is complete when the next row has come, so the last one
before a fault is lost. -/
def singleGroups (rows : Stream (List Value)) : Stream (List (List Value)) :=
  let groups := rows.rows.map fun row => [row]
  if rows.failure.isSome then ⟨groups.dropLast, rows.failure⟩ else ⟨groups, none⟩

/-- The rows of a selection as groups; without columns to group by there is one group of all. Rows
that are grouped by their numbers are groups of their own. -/
def groupsOf (fields : List FrameField) (p : SelectPart) (rows : Stream (List Value)) :
    Stream (List (List Value)) :=
  match p.groupBy with
  | none => .ofRows (rows.toRows.map fun rows => [rows])
  | some columns =>
    if columns.any (isRowNumber fields) then singleGroups rows
    else .ofRows (rows.toRows >>= sortedGroups fields columns (termsOf p))

/-- A group with all aggregates of a selection, none of which fails. -/
def completeGroup (fields : List FrameField) (p : SelectPart) (rows : List (List Value)) :
    Except Fault Group := do
  let group ← Group.ofRows fields (exprsOf p) rows
  let _ ← ((exprsOf p).filter isAggregate).mapM (evalExpr fields group)
  return group

/-- Whether the groups of a selection come in the order of its terms. -/
def groupsAreOrdered (fields : List FrameField) (p : SelectPart) : Bool :=
  match p.groupBy with
  | none => true
  | some columns =>
    ordersGroups fields columns (termsOf p)
      && (!columns.any (isRowNumber fields) || (numberDirection? fields (termsOf p)).isSome)

/-! ## Runs -/

/-- The direction in which a selection looks at the rows of its relation. -/
def scanDirection (fields : List FrameField) (p : SelectPart) : Direction :=
  if isGrouping p && !groupsAreOrdered fields p then .ascending
  else (numberDirection? fields (termsOf p)).getD .ascending

/-- Whether the rows or groups of a selection come in the order that it asks for. -/
def comesOrdered (fields : List FrameField) (p : SelectPart) : Bool :=
  (termsOf p).isEmpty
    || (if isGrouping p then groupsAreOrdered fields p
      else (numberDirection? fields (termsOf p)).isSome)

/-- The rows of a selection that pass its filter, as groups; rows that are not grouped are groups of
one. -/
def selectedGroups (frame : Frame) (bindings : Bindings) (p : SelectPart) : Stream Group :=
  let rows : Stream (List Value) :=
    ⟨inDirection (scanDirection frame.fields p) frame.rows, none⟩
  let kept := rows.keep fun row => passes frame.fields bindings p.filter (.ofRow row)
  if isGrouping p then
    ((groupsOf frame.fields p kept).convert (completeGroup frame.fields p)).keep
      (passes frame.fields bindings p.having)
  else kept.convert fun row => .ok (.ofRow row)

/-- The run of one selection with its own order and the given limit. -/
def runPart (store : Store) (bindings : Bindings) (p : SelectPart) (limit : Option Limit) :
    Traversal :=
  if limit.map Limit.count == some 0 then .empty
  else
    match relationFrame store bindings p.relation with
    | .error fault => .failed fault
    | .ok frame =>
      let groups := selectedGroups frame bindings p
      let result := resultRow frame.fields p.columns
      if comesOrdered frame.fields p then (groups.cut limit).convert result
      else
        let keys := termValues frame.fields (termsOf p)
        .ofRows (groups.toRows >>= arranged (termsOf p) limit keys result)

/-- The rows without repetitions, sorted. -/
def distinctRows (rows : List (List Cell)) : List (List Cell) :=
  (gather ((rows.mergeSort fun a b => (compareLists a b).isLE).map fun row => (row, row))).filterMap
    List.head?

/-- Whether a row is among others. -/
def containsRow (rows : List (List Cell)) (row : List Cell) : Bool :=
  rows.any fun r => compareLists r row == .eq

/-- The rows of two selections combined. Only `UNION ALL` keeps repetitions and the order.

Both selections are assumed to have as many columns, since the engine refuses to combine others. Of
rows that are equal without being the same (`1` and `1.0`) the first one is kept, which is an
assumption too: which one the engine keeps depends on how it sorts. -/
def combine (op : SetOperator) (s t : Traversal) : Traversal :=
  match op with
  | .unionAll => s.append t
  | .union => .ofRows do return distinctRows ((← s.toRows) ++ (← t.toRows))
  | .intersect => .ofRows do
    let others ← t.toRows
    return distinctRows ((← s.toRows).filter (containsRow others))
  | .except => .ofRows do
    let others ← t.toRows
    return distinctRows ((← s.toRows).filter fun row => !containsRow others row)

/-- The rows so far combined with the selections that are written after them, from left to right. -/
def runCompound (store : Store) (bindings : Bindings) (soFar : Traversal) (op : SetOperator) :
    Select → Traversal
  | .simple part => combine op soFar (runPart store bindings { part with orderBy := none } none)
  | .compound part next other =>
    runCompound store bindings
      (combine op soFar (runPart store bindings { part with orderBy := none } none)) next other

/-- Combined rows sorted by an ordering, whose terms are assumed to be result columns: the engine
refuses to sort combined rows by anything else. -/
def sortCombined (p : SelectPart) (t : Traversal) : Traversal :=
  match p.orderBy with
  | none => t
  | some order =>
    let keys := fun (row : List Cell) => order.terms.map fun term =>
      ((p.columns.findIdx? fun c => c.expr == term.expr).bind fun i => row[i]?).getD .null
    .ofRows (t.toRows.map fun rows => sortRows order.terms (rows.map fun row => (keys row, row)))

/-- The run of a selection. -/
def run (store : Store) (bindings : Bindings) : Select → Traversal
  | .simple part => runPart store bindings part part.limit
  | .compound part op other =>
    let first := runPart store bindings { part with orderBy := none } none
    (sortCombined part (runCompound store bindings first op other)).cut part.limit

end TypedQuery.Engine
