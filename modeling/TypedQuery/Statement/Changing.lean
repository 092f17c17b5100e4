import TypedQuery.Engine.Preparation
import TypedQuery.Statement.Basic

/-!
# Running changes and counts

Insertions, updates, deletions and counts take one step each. The new values of an insertion or an
update are passed when it runs; a row of another length than the list of columns is refused before
the engine is asked. A run that fails changes nothing.
-/

set_option autoImplicit false

namespace TypedQuery

/-- A statement for the insertion. -/
def Insert.compile (q : Insert) : Except Error (Statement Insert) := prepare q q.sql [] none

/-- A statement for the update, the parameters of its filter numbered. -/
def Update.compile (q : Update) : Except Error (Statement Update) :=
  let q := q.numbered
  prepare q q.sql q.filter.toList (Engine.updateRefusal? q)

/-- A statement for the deletion, its parameters numbered. -/
def Delete.compile (q : Delete) : Except Error (Statement Delete) :=
  let q := q.numbered
  prepare q q.sql q.filter.toList (Engine.deleteRefusal? q)

/-- A statement for the count, its parameters numbered. -/
def Count.compile (q : Count) : Except Error (Statement Count) :=
  let q := q.numbered
  prepare q q.sql q.filter.toList none

namespace Engine

/-- The rows of a table that pass a filter. -/
def chosenRows (t : StoredTable) (shownAs : String) (bindings : Bindings)
    (filter : Option Filter) : Except Fault (List Row) := do
  let frame := t.frame shownAs
  let chosen ← (t.rows.zip frame.rows).filterM fun (_, values) =>
    passes frame.fields bindings filter (.ofRow values)
  return chosen.map fun (row, _) => row

/-- The values bound to the first parameters, under the names of columns. -/
def assignments (columns : List Column) (bindings : Bindings) : List (String × Cell) :=
  columns.mapIdx fun i c => (c.name, bindings (i + 1))

/-- Inserts a row; yields the store and the number of the row. -/
def insertRow (store : Store) (bindings : Bindings) (q : Insert) : Except Fault (Store × Int64) :=
  match store.table? q.table.name with
  | none => .error (.noSuchTable q.table.name)
  | some t => (t.insert (assignments q.columns bindings)).map fun (t, id) => (store.putTable t, id)

/-- Changes the rows that pass the filter; yields the store and how many they are. -/
def updateRows (store : Store) (bindings : Bindings) (q : Update) : Except Fault (Store × Nat) :=
  match store.table? q.table.name with
  | none => .error (.noSuchTable q.table.name)
  | some t => do
    let chosen ← chosenRows t q.table.name bindings q.filter
    let t ← t.update chosen (assignments q.columns bindings)
    return (store.putTable t, chosen.length)

/-- Removes the rows that pass the filter; yields the store and how many they are. -/
def deleteRows (store : Store) (bindings : Bindings) (q : Delete) : Except Fault (Store × Nat) :=
  match store.table? q.table.name with
  | none => .error (.noSuchTable q.table.name)
  | some t => do
    let chosen ← chosenRows t q.table.name bindings q.filter
    return (store.putTable (t.delete chosen), chosen.length)

/-- The number of rows that pass the filter. -/
def countRows (store : Store) (bindings : Bindings) (q : Count) : Except Fault Nat := do
  let frame := store.frame q.table.name
  let kept ← frame.rows.filterM fun row => passes frame.fields bindings q.filter (.ofRow row)
  return kept.length

end Engine

namespace Statement

variable {κ : Type}

/-- The outcome of the single step of a statement, with its requests. -/
def stepOnce {α : Type} (s : Statement κ) (result : Except Engine.Fault α) :
    Except Error α × Trace :=
  match result with
  | .ok value => (.ok value, .ofRun s.expandedSql ++ .ofSteps 1 0)
  | .error fault => (.error (.step s.sql fault), .ofRun s.expandedSql ++ .ofSteps 1 1)

/-- Binds a row of values, whose length has to be the one that is expected. -/
def bindRow (s : Statement κ) (expected : Nat) (values : List Argument) :
    Except Error (Statement κ × Trace) :=
  if values.length = expected then
    let binds := rowBinds values
    .ok (s.withBinds binds, .ofBinds binds)
  else .error (.arityMismatch expected values.length)

/-- Inserts a row of values: the store and the number of the row after it. -/
def insert (s : Statement Insert) (store : Engine.Store) (values : List Argument) :
    Except Error (Engine.Store × Int64) × Statement Insert × Trace :=
  match s.bindRow s.query.columns.length values with
  | .error error => (.error error, s, .empty)
  | .ok (s, bound) =>
    let (result, ran) := s.stepOnce (Engine.insertRow store s.bindings s.query)
    (result, s, bound ++ ran)

/-- Changes rows to the values: the store and the number of rows. -/
def update (s : Statement Update) (store : Engine.Store) (values : List Argument) :
    Except Error (Engine.Store × Nat) × Statement Update × Trace :=
  match s.bindRow s.query.columns.length values with
  | .error error => (.error error, s, .empty)
  | .ok (s, bound) =>
    let (result, ran) := s.stepOnce (Engine.updateRows store s.bindings s.query)
    (result, s, bound ++ ran)

/-- Removes rows: the store and the number of rows. -/
def delete (s : Statement Delete) (store : Engine.Store) :
    Except Error (Engine.Store × Nat) × Trace :=
  s.stepOnce (Engine.deleteRows store s.bindings s.query)

/-- Counts rows. -/
def count (s : Statement Count) (store : Engine.Store) : Except Error Nat × Trace :=
  s.stepOnce (Engine.countRows store s.bindings s.query)

end Statement

end TypedQuery
