import TypedQuery.Filter.Basic

/-!
# Expressions, filters and orderings in SQL

A condition with a connective stands between parentheses, so the text shows the whole tree. A
comparison with NULL has a form of its own for equality and its negation, whichever side the
literal was on.
-/

set_option autoImplicit false

namespace TypedQuery

/-- An expression in SQL. -/
def Expr.sql : Expr → List Char
  | .column c => c.sql
  | .aggregate function c distinct =>
    function.sql.toList ++ '(' :: (if distinct then "DISTINCT ".toList else []) ++ c.sql ++ [')']

/-- A filter in SQL. -/
def Filter.sql : Filter → List Char
  | .compare op expr (.param p) true => p.sql ++ ' ' :: op.sql.toList ++ ' ' :: expr.sql
  | .compare op expr (.param p) false => expr.sql ++ ' ' :: op.sql.toList ++ ' ' :: p.sql
  | .compare op expr .null valueFirst =>
    match op.nullForm? with
    | some form => expr.sql ++ ' ' :: form.toList
    | none =>
      if valueFirst then "NULL ".toList ++ op.sql.toList ++ ' ' :: expr.sql
      else expr.sql ++ ' ' :: op.sql.toList ++ " NULL".toList
  | .columns op left right => left.sql ++ ' ' :: op.sql.toList ++ ' ' :: right.sql
  | .like column pattern => column.sql ++ " LIKE ".toList ++ pattern.sql
  | .logical op left right =>
    '(' :: left.sql ++ ' ' :: op.sql.toList ++ ' ' :: right.sql ++ [')']

/-- A term of an ordering in SQL. -/
def OrderTerm.sql (term : OrderTerm) : List Char :=
  term.expr.sql ++ ' ' :: term.direction.sql.toList
    ++ (match term.nulls with
      | some nulls => ' ' :: nulls.sql.toList
      | none => [])

/-- An ordering in SQL. -/
def OrderBy.sql (o : OrderBy) : List Char := Sql.separated ", " (o.terms.map OrderTerm.sql)

end TypedQuery
