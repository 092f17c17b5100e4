import TypedQuery.Filter.Operand
import TypedQuery.Query.Relation

/-!
# Selections

A selection ranges over a relation and yields the values of its result columns for the rows, or the
groups of rows, that pass its filters. Two selections are combined by a set operator: the first one
goes on in the second, which has neither an order nor a limit, since those of the first belong to
the whole.

`Select.number` numbers the parameters in the order in which their placeholders are written: the
conditions of the joins, the filter on rows, the filter on groups, then the selection that follows.
-/

set_option autoImplicit false

namespace TypedQuery

/-- A result column and the type it is read at. -/
structure ResultColumn where
  expr : Expr
  type : ValueType
  deriving DecidableEq, Repr

/-- The result column of a typed expression. -/
def TypedExpr.result {t : ValueType} (e : TypedExpr t) : ResultColumn := ⟨e.expr, t⟩

/-- One selection with its clauses. -/
structure SelectPart where
  relation : Relation
  columns : List ResultColumn
  filter : Option Filter
  groupBy : Option (List Column)
  having : Option Filter
  orderBy : Option OrderBy
  limit : Option Limit

/-- A selection, or one that is combined with another. -/
inductive Select where
  | simple (part : SelectPart)
  | compound (part : SelectPart) (op : SetOperator) (other : Select)

namespace SelectPart

/-- The filters in the order in which their placeholders are written. -/
def filters (p : SelectPart) : List Filter :=
  p.relation.filters ++ p.filter.toList ++ p.having.toList

/-- The selection with its parameters numbered from `first` on. -/
def number (first : Nat) (p : SelectPart) : SelectPart :=
  let afterJoins := first + paramCount p.relation.filters
  { p with
    relation := p.relation.number first
    filter := numberClause afterJoins p.filter
    having := numberClause (afterJoins + paramCount p.filter.toList) p.having }

end SelectPart

namespace Select

/-- The first selection, whose clauses are still open. -/
def part : Select → SelectPart
  | .simple part => part
  | .compound part _ _ => part

/-- The selection with its first part changed. -/
def withPart (part : SelectPart) : Select → Select
  | .simple _ => .simple part
  | .compound _ op other => .compound part op other

/-- The tables that the first selection ranges over. -/
def tables (q : Select) : List TableId := q.part.relation.tables

/-- The types that the rows are read at. -/
def types (q : Select) : List ValueType := q.part.columns.map ResultColumn.type

/-- The filters of all parts, in the order in which their placeholders are written. -/
def filters : Select → List Filter
  | .simple part => part.filters
  | .compound part _ other => part.filters ++ other.filters

/-- The parameters of all parts, in the order of their placeholders. -/
def params (q : Select) : List Param := q.filters.flatMap Filter.params

/-- The selection with its parameters numbered from `first` on. -/
def number (first : Nat) : Select → Select
  | .simple part => .simple (part.number first)
  | .compound part op other =>
    .compound (part.number first) op (other.number (first + paramCount part.filters))

/-- The selection with its parameters numbered from 1 on. -/
def numbered (q : Select) : Select := q.number 1

/-- A selection from a relation without any clause. -/
def ofRelation (relation : Relation) (columns : List ResultColumn) : Except Error Select := do
  checkScope .select relation.tables (columns.map fun c => c.expr.base)
  return .simple ⟨relation, columns, none, none, none, none, none⟩

/-- Keeps the rows that satisfy a condition. -/
def filter (q : Select) (filter : Filter) : Except Error Select := do
  checkScope .filter q.tables filter.columnList
  let filter ← fillOnce .filter q.part.filter filter
  return q.withPart { q.part with filter }

/-- Makes one row of all rows that agree in the columns. -/
def groupBy (q : Select) (columns : List Column) : Except Error Select := do
  checkScope .groupBy q.tables columns
  let groupBy ← fillOnce .groupBy q.part.groupBy columns
  return q.withPart { q.part with groupBy }

/-- Keeps the groups that satisfy a condition; there have to be groups. -/
def having (q : Select) (filter : Filter) : Except Error Select := do
  if q.part.groupBy.isNone then .error .havingWithoutGroupBy
  checkScope .having q.tables filter.columnList
  let having ← fillOnce .having q.part.having filter
  return q.withPart { q.part with having }

/-- Sorts the rows. -/
def orderBy (q : Select) (order : OrderBy) : Except Error Select := do
  checkScope .orderBy q.tables order.columnList
  let orderBy ← fillOnce .orderBy q.part.orderBy order
  return q.withPart { q.part with orderBy }

/-- Yields at most `count` rows after skipping `offset`. -/
def limitOffset (q : Select) (count offset : Nat) : Except Error Select := do
  let limit ← Limit.ofNats count offset
  let limit ← fillOnce .limit q.part.limit limit
  return q.withPart { q.part with limit }

/-- Yields at most `count` rows. -/
def limit (q : Select) (count : Nat) : Except Error Select := q.limitOffset count 0

/-- Combines the selection with another one, which may be neither sorted nor limited. -/
def unions (q : Select) (op : SetOperator) (other : Select) : Except Error Select :=
  if other.part.orderBy.isSome || other.part.limit.isSome then .error .invalidUnion
  else
    match q with
    | .simple part => .ok (.compound part op other)
    | .compound .. => .error (.clauseAlreadySet .union)

end Select

/-- A selection from the table. -/
def Table.select (t : Table) (columns : List ResultColumn) : Except Error Select :=
  Select.ofRelation (.table t) columns

/-- A selection of every column as it is. -/
def Table.selectAll (t : Table) : Except Error Select :=
  t.select (t.allColumns.map fun c => c.toExpr.result)

/-- A selection from the chain of joins. -/
def Join.select (j : Join) (columns : List ResultColumn) : Except Error Select :=
  Select.ofRelation j.toRelation columns

end TypedQuery
