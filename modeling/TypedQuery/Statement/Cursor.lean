import TypedQuery.Engine.Selection
import TypedQuery.Error

/-!
# Cursors

A cursor goes through the rows of a run. It is always one row ahead: the item that `next?` will
yield is already fetched, so that a run whose last row is taken has ended. A row that cannot be
decoded is an item like any other; a failing step ends the rows with one last item.
-/

set_option autoImplicit false

namespace TypedQuery

/-- Whether the item that comes next is a row. -/
inductive CursorState where
  | hasRow
  | exhausted
  deriving DecidableEq, Repr

/-- The name of a state. -/
def CursorState.name : CursorState → String
  | .hasRow => "HasRow"
  | .exhausted => "Exhausted"

/-- A cursor with items of the type `α`. -/
structure Cursor (α : Type) where
  /-- The text of the statement, for its errors. -/
  sql : String
  decode : List Cell → Except Error α
  /-- What the engine has yet to deliver. -/
  remaining : Engine.Traversal
  state : CursorState
  /-- The item that comes next. -/
  current : Option (Except Error α)
  /-- How many rows the engine was asked for. -/
  steps : Nat
  /-- How many of these steps failed. -/
  failures : Nat

namespace Cursor

variable {α : Type}

/-- The cursor after the engine is asked for another row, and the error if it fails. -/
def advance (c : Cursor α) : Cursor α × Option Error :=
  match c.remaining.rows, c.remaining.failure with
  | row :: rest, failure =>
    ({ c with
        remaining := ⟨rest, failure⟩
        state := .hasRow
        current := some (c.decode row)
        steps := c.steps + 1 }, none)
  | [], none => ({ c with state := .exhausted, current := none, steps := c.steps + 1 }, none)
  | [], some fault =>
    ({ c with
        state := .exhausted
        current := none
        steps := c.steps + 1
        failures := c.failures + 1 }, some (.step c.sql fault))

/-- A cursor before the first row of a run. -/
def ofTraversal (sql : String) (decode : List Cell → Except Error α) (run : Engine.Traversal) :
    Cursor α :=
  ⟨sql, decode, run, .exhausted, none, 0, 0⟩

/-- A cursor at the first row of a run, and the error if the first step fails. -/
def start (sql : String) (decode : List Cell → Except Error α) (run : Engine.Traversal) :
    Cursor α × Option Error :=
  (ofTraversal sql decode run).advance

/-- The next item, if there is one, and the cursor after it. -/
def next? (c : Cursor α) : Option (Except Error α) × Cursor α :=
  match c.current, c.state with
  | none, _ => (none, c)
  | some item, .exhausted => (some item, { c with current := none })
  | some item, .hasRow =>
    match c.advance with
    | (c, none) => (some item, c)
    | (c, some error) => (some item, { c with current := some (.error error) })

/-- All items that are left, at most as many as the bound, and the cursor after them. -/
def drain : Nat → Cursor α → List (Except Error α) × Cursor α
  | 0, c => ([], c)
  | bound + 1, c =>
    match c.next? with
    | (none, c) => ([], c)
    | (some item, c) =>
      let (items, c) := drain bound c
      (item :: items, c)

/-- A bound on the items that are left: the rows to come, the item at hand and an error. -/
def bound (c : Cursor α) : Nat := c.remaining.rows.length + 2

/-- The number of items that are left, and the cursor after them. -/
def count (c : Cursor α) : Nat × Cursor α :=
  let (items, c) := c.drain c.bound
  (items.length, c)

/-- The rows that are left, at most as many as the bound, or the first error among the items; the
items after that are not asked for. -/
def collect : Nat → Cursor α → Except Error (List α) × Cursor α
  | 0, c => (.ok [], c)
  | bound + 1, c =>
    match c.next? with
    | (none, c) => (.ok [], c)
    | (some (.error error), c) => (.error error, c)
    | (some (.ok row), c) =>
      let (rows, c) := collect bound c
      (rows.map (row :: ·), c)

/-- The rows that are left, or the first error among the items. -/
def toList (c : Cursor α) : Except Error (List α) × Cursor α := c.collect c.bound

/-- The only row of the cursor: an error if there is none or more than one, and the error of the
first row or of the step after it. -/
def single (c : Cursor α) : Except Error α × Cursor α :=
  match c.next? with
  | (none, c) => (.error .noResult, c)
  | (some (.error error), c) => (.error error, c)
  | (some (.ok row), c) =>
    match c.state with
    | .hasRow => (.error .multipleResults, c)
    | .exhausted =>
      match c.next? with
      | (some (.error error), c) => (.error error, c)
      | (_, c) => (.ok row, c)

end Cursor

end TypedQuery
