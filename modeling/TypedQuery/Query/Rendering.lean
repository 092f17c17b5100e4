import TypedQuery.Query.Change
import TypedQuery.Query.Select
import TypedQuery.Sql.Rendering

/-!
# Queries in SQL

The text of each kind of query. Only numbers that the parameters already have are written; a query
whose parameters are not numbered yet shows `?0`.
-/

set_option autoImplicit false

namespace TypedQuery

/-- A limit in SQL. -/
def Limit.sql (l : Limit) : List Char :=
  "LIMIT ".toList ++ Nat.toDigits 10 l.count ++ " OFFSET ".toList ++ Nat.toDigits 10 l.offset

/-- The names of columns without their table. -/
def bareNames (columns : List Column) : List Char :=
  Sql.separated ", " (columns.map Column.bareSql)

/-- The placeholders of `count` new values. -/
def placeholders (count : Nat) : List Char :=
  Sql.separated ", " ((List.range' 1 count).map fun index => '?' :: Nat.toDigits 10 index)

/-- A clause after a space and its keyword, if it is given. -/
def clauseSql (keyword : String) : Option (List Char) → List Char
  | some text => keyword.toList ++ text
  | none => []

/-- A join constraint in SQL. -/
def JoinConstraint.sql : JoinConstraint → List Char
  | .condition filter => " ON ".toList ++ filter.sql
  | .shared columns => " USING (".toList ++ bareNames columns ++ [')']

/-- A relation in SQL. -/
def Relation.sql : Relation → List Char
  | .table t => Sql.identifier t.name
  | .join left kind right constraint =>
    left.sql ++ ' ' :: kind.sql.toList ++ ' ' :: Sql.identifier right.name
      ++ clauseSql "" (constraint.map JoinConstraint.sql)

/-- The clauses that come before a set operator. -/
def SelectPart.headSql (p : SelectPart) : List Char :=
  "SELECT ".toList ++ Sql.separated ", " (p.columns.map fun c => c.expr.sql)
    ++ " FROM ".toList ++ p.relation.sql
    ++ clauseSql " WHERE " (p.filter.map Filter.sql)
    ++ clauseSql " GROUP BY " (p.groupBy.map fun cs => Sql.separated ", " (cs.map Column.sql))
    ++ clauseSql " HAVING " (p.having.map Filter.sql)

/-- The ordering and the limit, where they are given. -/
def trailingSql (orderBy : Option OrderBy) (limit : Option Limit) : List Char :=
  clauseSql " ORDER BY " (orderBy.map OrderBy.sql) ++ clauseSql " " (limit.map Limit.sql)

/-- A selection in SQL. The order and the limit of the first part come last. -/
def Select.sql : Select → List Char
  | .simple part => part.headSql ++ trailingSql part.orderBy part.limit
  | .compound part op other =>
    part.headSql ++ ' ' :: op.sql.toList ++ ' ' :: other.sql
      ++ trailingSql part.orderBy part.limit

/-- An insertion in SQL. -/
def Insert.sql (q : Insert) : List Char :=
  if q.columns.isEmpty then
    "INSERT INTO ".toList ++ Sql.identifier q.table.name ++ " DEFAULT VALUES".toList
  else
    "INSERT INTO ".toList ++ Sql.identifier q.table.name ++ " (".toList ++ bareNames q.columns
      ++ ") VALUES (".toList ++ placeholders q.columns.length ++ [')']

/-- An update in SQL. -/
def Update.sql (q : Update) : List Char :=
  "UPDATE ".toList ++ Sql.identifier q.table.name ++ " SET (".toList ++ bareNames q.columns
    ++ ") = (".toList ++ placeholders q.columns.length ++ ')' ::
    (clauseSql " WHERE " (q.filter.map Filter.sql) ++ trailingSql q.orderBy q.limit)

/-- A deletion in SQL. -/
def Delete.sql (q : Delete) : List Char :=
  "DELETE FROM ".toList ++ Sql.identifier q.table.name
    ++ clauseSql " WHERE " (q.filter.map Filter.sql) ++ trailingSql q.orderBy q.limit

/-- A count in SQL. -/
def Count.sql (q : Count) : List Char :=
  "SELECT COUNT(*) FROM ".toList ++ Sql.identifier q.table.name
    ++ clauseSql " WHERE " (q.filter.map Filter.sql)

end TypedQuery
