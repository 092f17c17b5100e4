import TypedQuery.Filter.Operator
import TypedQuery.Filter.Slot
import TypedQuery.Schema.Column

/-!
# Filters and orderings

A filter is a tree of conditions on the columns of tables, an ordering a list of things to sort by.
Both can list the columns they touch, so that a query can refuse what reaches outside its tables,
and a filter its parameters in the order of their placeholders.
-/

set_option autoImplicit false

namespace TypedQuery

/-- Something a row has a value for: a column, or an aggregate of one. -/
inductive Expr where
  | column (c : Column)
  | aggregate (function : Aggregate) (c : Column) (distinct : Bool)
  deriving DecidableEq, Repr

/-- The column of an expression. -/
def Expr.base : Expr → Column
  | .column c => c
  | .aggregate _ c _ => c

/-- What an expression is compared with: a parameter, or the literal NULL, which takes none. -/
inductive Comparand where
  | param (p : Param)
  | null

/-- A condition on a row. -/
inductive Filter where
  /-- An expression against a value, which is written first if `valueFirst` is set. -/
  | compare (op : Comparison) (expr : Expr) (value : Comparand) (valueFirst : Bool)
  /-- Two columns against each other. -/
  | columns (op : Comparison) (left right : Column)
  | like (column : Column) (pattern : Param)
  | logical (op : Connective) (left right : Filter)

namespace Filter

/-- Both conditions. -/
def and (f g : Filter) : Filter := .logical .and f g

/-- One of the conditions. -/
def or (f g : Filter) : Filter := .logical .or f g

/-- Every column of a filter, from left to right. -/
def columnList : Filter → List Column
  | .compare _ expr _ _ => [expr.base]
  | .columns _ left right => [left, right]
  | .like column _ => [column]
  | .logical _ left right => left.columnList ++ right.columnList

/-- The tables that the columns of a filter belong to. -/
def tables (f : Filter) : List TableId := (f.columnList.map Column.table).eraseDups

/-- Whether all tables of a filter are among the given ones. -/
def containsTables (f : Filter) (tables : List TableId) : Bool :=
  (firstOutOfScope tables f.columnList).isNone

/-- The parameters of a filter, in the order of their placeholders. -/
def params : Filter → List Param
  | .compare _ _ (.param p) _ => [p]
  | .compare _ _ .null _ => []
  | .columns .. => []
  | .like _ pattern => [pattern]
  | .logical _ left right => left.params ++ right.params

/-- How many parameters a filter has. -/
def paramCount : Filter → Nat
  | .compare _ _ (.param _) _ => 1
  | .compare _ _ .null _ => 0
  | .columns .. => 0
  | .like .. => 1
  | .logical _ left right => left.paramCount + right.paramCount

/-- The count is that of the list. -/
theorem length_params (f : Filter) : f.params.length = f.paramCount := by
  fun_induction params f <;> simp_all [paramCount]

/-- The filter with its parameters numbered from `first` on, in the order of their placeholders. -/
def number (first : Nat) : Filter → Filter
  | .compare op expr (.param p) valueFirst =>
    .compare op expr (.param { p with index := first }) valueFirst
  | .compare op expr .null valueFirst => .compare op expr .null valueFirst
  | .columns op left right => .columns op left right
  | .like column pattern => .like column { pattern with index := first }
  | .logical op left right =>
    .logical op (left.number first) (right.number (first + left.paramCount))

end Filter

/-- One thing to sort by. -/
structure OrderTerm where
  expr : Expr
  direction : Direction
  nulls : Option NullPlacement
  deriving DecidableEq, Repr

/-- What to sort by, the first term deciding first. -/
structure OrderBy where
  terms : List OrderTerm
  deriving DecidableEq, Repr

namespace OrderBy

/-- The ordering by one expression. -/
def single (expr : Expr) (direction : Direction) : OrderBy := ⟨[⟨expr, direction, none⟩]⟩

/-- The ordering that decides by a second one where the first does not. -/
def andThen (o next : OrderBy) : OrderBy := ⟨o.terms ++ next.terms⟩

/-- The terms with a placement of nothing on the last one. -/
def placeLast (nulls : NullPlacement) : List OrderTerm → List OrderTerm
  | [] => []
  | [term] => [{ term with nulls := some nulls }]
  | term :: rest => term :: placeLast nulls rest

/-- The ordering with a placement of nothing for its last term. -/
def withNulls (o : OrderBy) (nulls : NullPlacement) : OrderBy := ⟨placeLast nulls o.terms⟩

/-- Every column of an ordering, from left to right. -/
def columnList (o : OrderBy) : List Column := o.terms.map fun term => term.expr.base

end OrderBy

end TypedQuery
