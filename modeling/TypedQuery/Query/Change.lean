import TypedQuery.Query.Clause

/-!
# Insertions, updates, deletions and counts

The queries over a single table. An update numbers the new values first: with `n` columns they take
the placeholders 1 to `n`, and the parameters of the filter follow.
-/

set_option autoImplicit false

namespace TypedQuery

/-- An insertion of one row. Without columns all of them take their defaults. -/
structure Insert where
  table : Table
  columns : List Column

/-- A change of columns in the rows that pass a filter. -/
structure Update where
  table : Table
  columns : List Column
  filter : Option Filter
  orderBy : Option OrderBy
  limit : Option Limit

/-- A removal of the rows that pass a filter. -/
structure Delete where
  table : Table
  filter : Option Filter
  orderBy : Option OrderBy
  limit : Option Limit

/-- The number of rows that pass a filter. -/
structure Count where
  table : Table
  filter : Option Filter

/-- The clause with a filter over one table. -/
def fillFilter (table : Table) (present : Option Filter) (filter : Filter) :
    Except Error (Option Filter) := do
  checkScope .filter [table.id] filter.columnList
  fillOnce .filter present filter

/-- The clause with an ordering over one table. -/
def fillOrderBy (table : Table) (present : Option OrderBy) (order : OrderBy) :
    Except Error (Option OrderBy) := do
  checkScope .orderBy [table.id] order.columnList
  fillOnce .orderBy present order

/-- The clause with a limit. -/
def fillLimit (present : Option Limit) (count offset : Nat) : Except Error (Option Limit) := do
  let limit ← Limit.ofNats count offset
  fillOnce .limit present limit

/-- The parameters of a filter clause. -/
def clauseParams (clause : Option Filter) : List Param := clause.toList.flatMap Filter.params

namespace Update

/-- Changes the rows that satisfy a condition. -/
def withFilter (q : Update) (filter : Filter) : Except Error Update := do
  return { q with filter := ← fillFilter q.table q.filter filter }

/-- Changes rows in this order; an engine may refuse it. -/
def withOrderBy (q : Update) (order : OrderBy) : Except Error Update := do
  return { q with orderBy := ← fillOrderBy q.table q.orderBy order }

/-- Changes a limited number of rows; an engine may refuse it. -/
def withLimit (q : Update) (count offset : Nat) : Except Error Update := do
  return { q with limit := ← fillLimit q.limit count offset }

/-- The parameters of the filter. -/
def params (q : Update) : List Param := clauseParams q.filter

/-- The update with the parameters of its filter numbered after the new values. -/
def numbered (q : Update) : Update :=
  { q with filter := numberClause (1 + q.columns.length) q.filter }

end Update

namespace Delete

/-- Removes the rows that satisfy a condition. -/
def withFilter (q : Delete) (filter : Filter) : Except Error Delete := do
  return { q with filter := ← fillFilter q.table q.filter filter }

/-- Removes rows in this order; an engine may refuse it. -/
def withOrderBy (q : Delete) (order : OrderBy) : Except Error Delete := do
  return { q with orderBy := ← fillOrderBy q.table q.orderBy order }

/-- Removes a limited number of rows; an engine may refuse it. -/
def withLimit (q : Delete) (count offset : Nat) : Except Error Delete := do
  return { q with limit := ← fillLimit q.limit count offset }

/-- The parameters of the filter. -/
def params (q : Delete) : List Param := clauseParams q.filter

/-- The deletion with its parameters numbered. -/
def numbered (q : Delete) : Delete := { q with filter := numberClause 1 q.filter }

end Delete

namespace Count

/-- Counts the rows that satisfy a condition. -/
def withFilter (q : Count) (filter : Filter) : Except Error Count := do
  return { q with filter := ← fillFilter q.table q.filter filter }

/-- The parameters of the filter. -/
def params (q : Count) : List Param := clauseParams q.filter

/-- The count with its parameters numbered. -/
def numbered (q : Count) : Count := { q with filter := numberClause 1 q.filter }

end Count

namespace Table

/-- An insertion into the given columns. -/
def insert (t : Table) (columns : List Column) : Except Error Insert := do
  checkScope .insert [t.id] columns
  return ⟨t, columns⟩

/-- An insertion of a row of defaults. -/
def insertDefault (t : Table) : Insert := ⟨t, []⟩

/-- An update of the given columns. -/
def update (t : Table) (columns : List Column) : Except Error Update := do
  checkScope .update [t.id] columns
  return ⟨t, columns, none, none, none⟩

/-- A deletion of all rows. -/
def delete (t : Table) : Delete := ⟨t, none, none, none⟩

/-- A count of all rows. -/
def count (t : Table) : Count := ⟨t, none⟩

end Table

end TypedQuery
