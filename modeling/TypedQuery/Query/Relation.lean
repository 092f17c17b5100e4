import TypedQuery.Query.Clause

/-!
# Relations

The rows that a query ranges over come from a table or from a chain of joins. A chain grows to the
right: its left side is the chain so far, its right side always one table. The condition of a join
may mention the tables of the chain up to and including its own; the columns of a USING clause come
all from the table directly left of the join or all from its right table.
-/

set_option autoImplicit false

namespace TypedQuery

/-- What the rows of a join have to satisfy. -/
inductive JoinConstraint where
  | condition (filter : Filter)
  /-- The columns that have to be equal on both sides. -/
  | shared (columns : List Column)

/-- A table or a chain of joins. -/
inductive Relation where
  | table (t : Table)
  | join (left : Relation) (kind : JoinKind) (right : Table) (constraint : Option JoinConstraint)

/-- The filter of a constraint, if it has one. -/
def JoinConstraint.filter? : JoinConstraint → Option Filter
  | .condition filter => some filter
  | .shared _ => none

/-- The constraint with its parameters numbered from `first` on. -/
def JoinConstraint.number (first : Nat) : JoinConstraint → JoinConstraint
  | .condition filter => .condition (filter.number first)
  | .shared columns => .shared columns

namespace Relation

/-- The tables in scope, from left to right. -/
def tables : Relation → List TableId
  | .table t => [t.id]
  | .join left _ right _ => left.tables ++ [right.id]

/-- The table at the right end. -/
def rightmost : Relation → Table
  | .table t => t
  | .join _ _ right _ => right

/-- The conditions of the joins, the leftmost first. -/
def filters : Relation → List Filter
  | .table _ => []
  | .join left _ _ constraint => left.filters ++ (constraint.bind JoinConstraint.filter?).toList

/-- The relation with the parameters of its conditions numbered from `first` on. -/
def number (first : Nat) : Relation → Relation
  | .table t => .table t
  | .join left kind right constraint =>
    .join (left.number first) kind right
      (constraint.map (JoinConstraint.number (first + paramCount left.filters)))

end Relation

/-- The last join of a chain while its constraint may still be given. -/
structure Join where
  left : Relation
  kind : JoinKind
  right : Table
  constraint : Option JoinConstraint

namespace Join

/-- The chain that ends with the join. -/
def toRelation (j : Join) : Relation := .join j.left j.kind j.right j.constraint

/-- The tables of the chain, from left to right. -/
def tables (j : Join) : List TableId := j.left.tables ++ [j.right.id]

/-- Constrains the join with a condition on the tables of the chain. -/
def constrain (j : Join) (filter : Filter) : Except Error Join := do
  if j.kind.isNatural then .error (.invalidJoinConstraint (.naturalOn j.kind))
  checkScope .joinCondition j.tables filter.columnList
  let constraint ← fillOnce .joinConstraint j.constraint (.condition filter)
  return { j with constraint }

/-- The first name that occurs a second time. -/
def repeatedName? : List String → List String → Option String
  | _, [] => none
  | seen, name :: rest => if seen.contains name then some name else repeatedName? (name :: seen) rest

/-- Constrains the join with columns that have to be equal on both sides. They have distinct names
and come all from the table directly left of the join or all from the right one. -/
def share (j : Join) (columns : List Column) : Except Error Join := do
  if j.kind.isNatural then .error (.invalidJoinConstraint (.naturalUsing j.kind))
  if columns.isEmpty then .error (.invalidJoinConstraint .noColumns)
  if let some name := repeatedName? [] (columns.map Column.name) then
    .error (.invalidJoinConstraint (.repeatedColumn name))
  let left := j.left.rightmost
  let allFrom := fun (t : Table) => columns.all fun c => c.table == t.id
  if !allFrom left && !allFrom j.right then
    .error (.invalidJoinConstraint (.mixedTables left.name j.right.name))
  let constraint ← fillOnce .joinConstraint j.constraint (.shared columns)
  return { j with constraint }

/-- The chain extended by another table. -/
def join (j : Join) (kind : JoinKind) (right : Table) : Join := ⟨j.toRelation, kind, right, none⟩

end Join

/-- A join of two tables. -/
def Table.join (t : Table) (kind : JoinKind) (right : Table) : Join := ⟨.table t, kind, right, none⟩

end TypedQuery
