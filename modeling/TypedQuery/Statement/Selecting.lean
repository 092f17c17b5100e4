import TypedQuery.Engine.Preparation
import TypedQuery.Statement.Basic
import TypedQuery.Statement.Cursor

/-!
# Running selections

A selection is compiled into a statement, whose rows are read at the types of its result columns.
-/

set_option autoImplicit false

namespace TypedQuery

/-- A value together with its type. -/
abbrev TypedValue : Type := (t : ValueType) × t.Value

/-- The values of a row from a column on. -/
def decodeFrom (column : Nat) : List ValueType → List Cell → Except Error (List TypedValue)
  | t :: types, cell :: cells => do
    let v ← (cell.read column t).mapError .read
    let rest ← decodeFrom (column + 1) types cells
    return ⟨t, v⟩ :: rest
  | _, _ => .ok []

/-- A row read at the types of its columns; the first column that cannot be read fails. -/
def decodeRow (types : List ValueType) (cells : List Cell) : Except Error (List TypedValue) :=
  decodeFrom 0 types cells

/-- A statement for the selection, its parameters numbered. -/
def Select.compile (q : Select) : Except Error (Statement Select) :=
  let q := q.numbered
  prepare q q.sql q.filters (Engine.selectRefusal? q)

namespace Statement

/-- The run of a selection with what is bound now. -/
def traversal (s : Statement Select) (store : Engine.Store) : Engine.Traversal :=
  Engine.run store s.bindings s.query

/-- The requests of a run that has come as far as the cursor. -/
def runTrace {α : Type} (s : Statement Select) (c : Cursor α) : Trace :=
  .ofRun s.expandedSql ++ .ofSteps c.steps c.failures

/-- Starts a run: a cursor at its first row, and the error if the first step fails. -/
def start (s : Statement Select) (store : Engine.Store) :
    Cursor (List TypedValue) × Option Error :=
  Cursor.start s.sql (decodeRow s.query.types) (s.traversal store)

/-- A run that is read by `use`, with its requests. -/
def runWith {α : Type} (s : Statement Select) (store : Engine.Store)
    (use : Cursor (List TypedValue) → Except Error α × Cursor (List TypedValue)) :
    Except Error α × Trace :=
  match s.start store with
  | (c, some error) => (.error error, s.runTrace c)
  | (c, none) =>
    let (result, c) := use c
    (result, s.runTrace c)

/-- All rows of one run. -/
def fetchAll (s : Statement Select) (store : Engine.Store) :
    Except Error (List (List TypedValue)) × Trace :=
  s.runWith store Cursor.toList

/-- The only row of a run. -/
def fetchOne (s : Statement Select) (store : Engine.Store) :
    Except Error (List TypedValue) × Trace :=
  s.runWith store Cursor.single

end Statement

end TypedQuery
