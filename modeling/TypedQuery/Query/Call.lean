import TypedQuery.Query.Rendering

/-!
# Building queries

A query of any kind, and the calls that give it its clauses. Numbering the parameters is a call too:
it may come at any time, and it changes nothing but the numbers.
-/

set_option autoImplicit false

namespace TypedQuery

/-- A query of any kind. -/
inductive Query where
  | select (q : Select)
  | insert (q : Insert)
  | update (q : Update)
  | delete (q : Delete)
  | count (q : Count)

/-- A step in building a query. -/
inductive Call where
  | filter (filter : Filter)
  | groupBy (columns : List Column)
  | having (filter : Filter)
  | orderBy (order : OrderBy)
  | limit (count offset : Nat)
  | union (op : SetOperator) (other : Select)
  /-- Numbers the parameters. -/
  | number

/-- The selection after a call. -/
def Select.applyCall (q : Select) : Call → Except Error Select
  | .filter f => q.filter f
  | .groupBy columns => q.groupBy columns
  | .having f => q.having f
  | .orderBy order => q.orderBy order
  | .limit count offset => q.limitOffset count offset
  | .union op other => q.unions op other
  | .number => .ok q.numbered

/-- The update after a call, if updates have such a clause. -/
def Update.applyCall (q : Update) : Call → Option (Except Error Update)
  | .filter f => some (q.withFilter f)
  | .orderBy order => some (q.withOrderBy order)
  | .limit count offset => some (q.withLimit count offset)
  | .number => some (.ok q.numbered)
  | _ => none

/-- The deletion after a call, if deletions have such a clause. -/
def Delete.applyCall (q : Delete) : Call → Option (Except Error Delete)
  | .filter f => some (q.withFilter f)
  | .orderBy order => some (q.withOrderBy order)
  | .limit count offset => some (q.withLimit count offset)
  | .number => some (.ok q.numbered)
  | _ => none

/-- The count after a call, if counts have such a clause. -/
def Count.applyCall (q : Count) : Call → Option (Except Error Count)
  | .filter f => some (q.withFilter f)
  | .number => some (.ok q.numbered)
  | _ => none

namespace Query

/-- The query after a call, if queries of its kind have such a clause. -/
def applyCall (q : Query) (call : Call) : Option (Except Error Query) :=
  match q with
  | .select q => some ((q.applyCall call).map .select)
  | .insert _ => none
  | .update q => (q.applyCall call).map fun r => r.map .update
  | .delete q => (q.applyCall call).map fun r => r.map .delete
  | .count q => (q.applyCall call).map fun r => r.map .count

/-- The query in SQL. -/
def sql : Query → List Char
  | .select q => q.sql
  | .insert q => q.sql
  | .update q => q.sql
  | .delete q => q.sql
  | .count q => q.sql

/-- The parameters in the order of their placeholders. The new values of an insertion or an update
are no parameters of the query. -/
def params : Query → List Param
  | .select q => q.params
  | .insert _ => []
  | .update q => q.params
  | .delete q => q.params
  | .count q => q.params

/-- The query with its parameters numbered. -/
def numbered : Query → Query
  | .select q => .select q.numbered
  | .insert q => .insert q
  | .update q => .update q.numbered
  | .delete q => .delete q.numbered
  | .count q => .count q.numbered

end Query

end TypedQuery
