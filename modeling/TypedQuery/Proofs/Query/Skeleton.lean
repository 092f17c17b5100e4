import TypedQuery.Proofs.Query.Built

/-!
# Skeletons of queries

The skeleton of a query is what its text is meant to say: names, operators, placeholder numbers and
the tree they form. It leaves out what is not written, such as the identity of a table, the value
behind a placeholder and the type that a result is read at. A comparison with NULL that has a form
of its own has the same skeleton whichever side the literal was on; nothing else is identified.

In a selection only the first part can be sorted or limited, so the skeleton has one place for the
ordering and the limit, behind all parts.
-/

set_option autoImplicit false

namespace TypedQuery.Skeleton

/-! ## The trees -/

/-- A column under the names it is written with. -/
structure Column where
  table : String
  name : String
  deriving DecidableEq, Repr

inductive Expr where
  | column (c : Column)
  | aggregate (function : Aggregate) (c : Column) (distinct : Bool)
  deriving DecidableEq, Repr

/-- One side of a condition. -/
inductive Operand where
  | expr (e : Expr)
  | placeholder (number : Nat)
  | null
  deriving DecidableEq, Repr

/-- What a condition asks of its left side. -/
inductive Predicate where
  | compared (op : Comparison) (right : Operand)
  | isNull
  | isNotNull
  | like (pattern : Nat)
  deriving DecidableEq, Repr

inductive Filter where
  | condition (left : Operand) (predicate : Predicate)
  | logical (op : Connective) (left right : Filter)
  deriving DecidableEq, Repr

inductive Constraint where
  | condition (filter : Filter)
  | shared (names : List String)
  deriving DecidableEq, Repr

structure Join where
  kind : JoinKind
  right : String
  constraint : Option Constraint
  deriving DecidableEq, Repr

structure OrderTerm where
  expr : Expr
  direction : Direction
  nulls : Option NullPlacement
  deriving DecidableEq, Repr

/-- The clauses of a selection that come before a set operator. -/
structure Part where
  columns : List Expr
  first : String
  joins : List Join
  filter : Option Filter
  groupBy : Option (List Column)
  having : Option Filter
  deriving DecidableEq, Repr

/-- An ordering and a limit, which come last. -/
structure Trailing where
  orderBy : Option (List OrderTerm)
  limit : Option Limit
  deriving DecidableEq, Repr

structure Select where
  first : Part
  others : List (SetOperator × Part)
  trailing : Trailing
  deriving DecidableEq, Repr

inductive Query where
  | select (q : Select)
  | insert (table : String) (columns : List String)
  | update (table : String) (columns : List String) (filter : Option Filter) (trailing : Trailing)
  | delete (table : String) (filter : Option Filter) (trailing : Trailing)
  | count (table : String) (filter : Option Filter)
  deriving DecidableEq, Repr

/-! ## Their texts -/

def placeholderSql (number : Nat) : List Char := '?' :: Nat.toDigits 10 number

def Column.sql (c : Column) : List Char := Sql.identifier c.table ++ '.' :: Sql.identifier c.name

def distinctSql (distinct : Bool) : List Char := if distinct then "DISTINCT ".toList else []

def Expr.sql : Expr → List Char
  | .column c => c.sql
  | .aggregate function c distinct =>
    function.sql.toList ++ '(' :: (distinctSql distinct ++ (c.sql ++ [')']))

def Operand.sql : Operand → List Char
  | .expr e => e.sql
  | .placeholder number => placeholderSql number
  | .null => "NULL".toList

def Predicate.sql : Predicate → List Char
  | .compared op right => op.sql.toList ++ ' ' :: right.sql
  | .isNull => "IS NULL".toList
  | .isNotNull => "IS NOT NULL".toList
  | .like pattern => "LIKE ".toList ++ placeholderSql pattern

def Filter.sql : Filter → List Char
  | .condition left predicate => left.sql ++ ' ' :: predicate.sql
  | .logical op left right =>
    '(' :: (left.sql ++ ' ' :: (op.sql.toList ++ ' ' :: (right.sql ++ [')'])))

def namesSql (names : List String) : List Char :=
  Sql.separated ", " (names.map Sql.identifier)

def Constraint.sql : Constraint → List Char
  | .condition filter => " ON ".toList ++ filter.sql
  | .shared names => " USING (".toList ++ (namesSql names ++ [')'])

def Join.sql (j : Join) : List Char :=
  ' ' :: (j.kind.sql.toList ++ ' ' :: (Sql.identifier j.right
    ++ clauseSql "" (j.constraint.map Constraint.sql)))

def OrderTerm.sql (term : OrderTerm) : List Char :=
  term.expr.sql ++ ' ' :: (term.direction.sql.toList
    ++ clauseSql " " (term.nulls.map fun nulls => nulls.sql.toList))

def Part.sql (p : Part) : List Char :=
  "SELECT ".toList ++ (Sql.separated ", " (p.columns.map Expr.sql)
    ++ (" FROM ".toList ++ (Sql.identifier p.first
    ++ (p.joins.flatMap Join.sql
    ++ (clauseSql " WHERE " (p.filter.map Filter.sql)
    ++ (clauseSql " GROUP BY " (p.groupBy.map fun cs => Sql.separated ", " (cs.map Column.sql))
    ++ clauseSql " HAVING " (p.having.map Filter.sql)))))))

/-- The numbers of a limit behind its keyword. -/
def limitSql (l : Limit) : List Char :=
  Nat.toDigits 10 l.count ++ (" OFFSET ".toList ++ Nat.toDigits 10 l.offset)

def Trailing.sql (t : Trailing) : List Char :=
  clauseSql " ORDER BY " (t.orderBy.map fun terms => Sql.separated ", " (terms.map OrderTerm.sql))
    ++ clauseSql " LIMIT " (t.limit.map limitSql)

/-- A part behind its set operator. -/
def otherSql (other : SetOperator × Part) : List Char :=
  ' ' :: (other.1.sql.toList ++ ' ' :: other.2.sql)

def Select.sql (q : Select) : List Char :=
  q.first.sql ++ (q.others.flatMap otherSql ++ q.trailing.sql)

def filterSql (filter : Option Filter) : List Char := clauseSql " WHERE " (filter.map Filter.sql)

def Query.sql : Query → List Char
  | .select q => q.sql
  | .insert table [] => "INSERT INTO ".toList ++ (Sql.identifier table ++ " DEFAULT VALUES".toList)
  | .insert table (column :: columns) =>
    "INSERT INTO ".toList ++ (Sql.identifier table ++ (" (".toList ++
      (namesSql (column :: columns) ++ (") VALUES (".toList ++
        (placeholders (columns.length + 1) ++ [')'])))))
  | .update table columns filter trailing =>
    "UPDATE ".toList ++ (Sql.identifier table ++ (" SET (".toList ++ (namesSql columns ++
      (") = (".toList ++ (placeholders columns.length ++
        ')' :: (filterSql filter ++ trailing.sql))))))
  | .delete table filter trailing =>
    "DELETE FROM ".toList ++ (Sql.identifier table ++ (filterSql filter ++ trailing.sql))
  | .count table filter =>
    "SELECT COUNT(*) FROM ".toList ++ (Sql.identifier table ++ filterSql filter)

end TypedQuery.Skeleton

namespace TypedQuery

/-! ## From queries to skeletons -/

def Column.skeleton (c : Column) : Skeleton.Column := ⟨c.tableName, c.name⟩

def Expr.skeleton : Expr → Skeleton.Expr
  | .column c => .column c.skeleton
  | .aggregate function c distinct => .aggregate function c.skeleton distinct

def Filter.skeleton : Filter → Skeleton.Filter
  | .compare op expr (.param p) true =>
    .condition (.placeholder p.index) (.compared op (.expr expr.skeleton))
  | .compare op expr (.param p) false =>
    .condition (.expr expr.skeleton) (.compared op (.placeholder p.index))
  | .compare .eq expr .null _ => .condition (.expr expr.skeleton) .isNull
  | .compare .ne expr .null _ => .condition (.expr expr.skeleton) .isNotNull
  | .compare op expr .null true => .condition .null (.compared op (.expr expr.skeleton))
  | .compare op expr .null false => .condition (.expr expr.skeleton) (.compared op .null)
  | .columns op left right =>
    .condition (.expr (.column left.skeleton)) (.compared op (.expr (.column right.skeleton)))
  | .like column pattern => .condition (.expr (.column column.skeleton)) (.like pattern.index)
  | .logical op left right => .logical op left.skeleton right.skeleton

def JoinConstraint.skeleton : JoinConstraint → Skeleton.Constraint
  | .condition filter => .condition filter.skeleton
  | .shared columns => .shared (columns.map Column.name)

def JoinStep.skeleton (step : JoinStep) : Skeleton.Join :=
  ⟨step.kind, step.right.name, step.constraint.map JoinConstraint.skeleton⟩

def OrderTerm.skeleton (term : OrderTerm) : Skeleton.OrderTerm :=
  ⟨term.expr.skeleton, term.direction, term.nulls⟩

def SelectPart.skeleton (p : SelectPart) : Skeleton.Part where
  columns := p.columns.map fun c => c.expr.skeleton
  first := p.relation.first.name
  joins := p.relation.steps.map JoinStep.skeleton
  filter := p.filter.map Filter.skeleton
  groupBy := p.groupBy.map (List.map Column.skeleton)
  having := p.having.map Filter.skeleton

/-- The skeleton of the clauses that come last. -/
def trailingSkeleton (orderBy : Option OrderBy) (limit : Option Limit) : Skeleton.Trailing :=
  ⟨orderBy.map fun order => order.terms.map OrderTerm.skeleton, limit⟩

namespace Select

/-- The parts after the first one, each with the set operator in front of it. -/
def others : Select → List (SetOperator × Skeleton.Part)
  | .simple _ => []
  | .compound _ op other => (op, other.part.skeleton) :: other.others

def skeleton (q : Select) : Skeleton.Select :=
  ⟨q.part.skeleton, q.others, trailingSkeleton q.part.orderBy q.part.limit⟩

end Select

def Query.skeleton : Query → Skeleton.Query
  | .select q => .select q.skeleton
  | .insert q => .insert q.table.name (q.columns.map Column.name)
  | .update q =>
    .update q.table.name (q.columns.map Column.name) (q.filter.map Filter.skeleton)
      (trailingSkeleton q.orderBy q.limit)
  | .delete q =>
    .delete q.table.name (q.filter.map Filter.skeleton) (trailingSkeleton q.orderBy q.limit)
  | .count q => .count q.table.name (q.filter.map Filter.skeleton)

/-! ## A query is written as its skeleton -/

theorem Column.sql_skeleton (c : Column) : c.skeleton.sql = c.sql := rfl

theorem Expr.sql_skeleton (e : Expr) : e.skeleton.sql = e.sql := by
  cases e with
  | column c => rfl
  | aggregate function c distinct =>
    simp only [skeleton, Skeleton.Expr.sql, Skeleton.distinctSql, Expr.sql, Column.sql_skeleton,
      List.append_assoc, List.cons_append]

/-- A comparison with NULL that has no form of its own shows which side the literal was on. -/
theorem Filter.sql_skeleton_null (op : Comparison) (expr : Expr) (valueFirst : Bool) :
    (Filter.compare op expr .null valueFirst).skeleton.sql =
      (Filter.compare op expr .null valueFirst).sql := by
  have hexpr := expr.sql_skeleton
  have hright : ∀ op : Comparison, expr.skeleton.sql ++ ' ' :: (op.sql.toList ++ " NULL".toList) =
      expr.sql ++ ' ' :: op.sql.toList ++ " NULL".toList := by
    intro op
    rw [hexpr, List.append_assoc]
    rfl
  have hleft : ∀ op : Comparison, "NULL ".toList ++ (op.sql.toList ++ ' ' :: expr.skeleton.sql) =
      "NULL ".toList ++ op.sql.toList ++ ' ' :: expr.sql := by
    intro op
    rw [hexpr, List.append_assoc]
  cases op with
  | eq => exact congrArg (· ++ " IS NULL".toList) hexpr
  | ne => exact congrArg (· ++ " IS NOT NULL".toList) hexpr
  | lt =>
    cases valueFirst with
    | true => exact hleft .lt
    | false => exact hright .lt
  | gt =>
    cases valueFirst with
    | true => exact hleft .gt
    | false => exact hright .gt
  | le =>
    cases valueFirst with
    | true => exact hleft .le
    | false => exact hright .le
  | ge =>
    cases valueFirst with
    | true => exact hleft .ge
    | false => exact hright .ge

theorem Filter.sql_skeleton (f : Filter) : f.skeleton.sql = f.sql := by
  induction f with
  | compare op expr value valueFirst =>
    cases value with
    | param p =>
      cases valueFirst with
      | true =>
        change p.sql ++ ' ' :: (op.sql.toList ++ ' ' :: expr.skeleton.sql) =
          p.sql ++ ' ' :: op.sql.toList ++ ' ' :: expr.sql
        rw [expr.sql_skeleton, List.append_assoc]
        rfl
      | false =>
        change expr.skeleton.sql ++ ' ' :: (op.sql.toList ++ ' ' :: p.sql) =
          expr.sql ++ ' ' :: op.sql.toList ++ ' ' :: p.sql
        rw [expr.sql_skeleton, List.append_assoc]
        rfl
    | null => exact Filter.sql_skeleton_null op expr valueFirst
  | columns op left right =>
    change left.sql ++ ' ' :: (op.sql.toList ++ ' ' :: right.sql) =
      left.sql ++ ' ' :: op.sql.toList ++ ' ' :: right.sql
    rw [List.append_assoc]
    rfl
  | like column pattern =>
    change column.sql ++ ' ' :: ("LIKE ".toList ++ pattern.sql) =
      column.sql ++ " LIKE ".toList ++ pattern.sql
    rw [List.append_assoc]
    rfl
  | logical op left right ihleft ihright =>
    change '(' :: (left.skeleton.sql ++ ' ' :: (op.sql.toList ++ ' ' ::
      (right.skeleton.sql ++ [')']))) =
      '(' :: left.sql ++ ' ' :: op.sql.toList ++ ' ' :: right.sql ++ [')']
    rw [ihleft, ihright]
    simp only [List.append_assoc, List.cons_append]

theorem namesSql_map (columns : List Column) :
    Skeleton.namesSql (columns.map Column.name) = bareNames columns := by
  unfold Skeleton.namesSql bareNames
  rw [List.map_map]
  rfl

/-- A clause is written as its skeleton if its contents are. -/
theorem clauseSql_map_skeleton {α β : Type} {t : α → List Char} {u : β → List Char} {f : α → β}
    (h : ∀ a, u (f a) = t a) (keyword : String) (clause : Option α) :
    clauseSql keyword ((clause.map f).map u) = clauseSql keyword (clause.map t) := by
  cases clause with
  | none => rfl
  | some a => exact congrArg (keyword.toList ++ ·) (h a)

/-- A list is written as its skeleton if its items are. -/
theorem separated_map_skeleton {α β : Type} {t : α → List Char} {u : β → List Char} {f : α → β}
    (h : ∀ a, u (f a) = t a) (items : List α) :
    Sql.separated ", " ((items.map f).map u) = Sql.separated ", " (items.map t) := by
  rw [List.map_map]
  exact congrArg (Sql.separated ", ") (List.map_congr_left fun a _ => h a)

theorem JoinConstraint.sql_skeleton (c : JoinConstraint) : c.skeleton.sql = c.sql := by
  cases c with
  | condition filter => exact congrArg (" ON ".toList ++ ·) filter.sql_skeleton
  | shared columns =>
    change " USING (".toList ++ (Skeleton.namesSql (columns.map Column.name) ++ [')']) =
      " USING (".toList ++ bareNames columns ++ [')']
    rw [namesSql_map, List.append_assoc]

/-- A chain is written as its first table and its joins. -/
theorem Relation.sql_skeleton (r : Relation) :
    Sql.identifier r.first.name ++ (r.steps.map JoinStep.skeleton).flatMap Skeleton.Join.sql =
      r.sql := by
  induction r with
  | table t => exact List.append_nil _
  | join left kind right constraint ih =>
    have hconstraint := clauseSql_map_skeleton JoinConstraint.sql_skeleton "" constraint
    rw [steps_join, List.map_append, List.flatMap_append, ← List.append_assoc]
    change Sql.identifier left.first.name
        ++ (left.steps.map JoinStep.skeleton).flatMap Skeleton.Join.sql
        ++ (' ' :: (kind.sql.toList ++ ' ' :: (Sql.identifier right.name ++
          clauseSql "" ((constraint.map JoinConstraint.skeleton).map Skeleton.Constraint.sql))) ++
            []) =
      left.sql ++ ' ' :: kind.sql.toList ++ ' ' :: Sql.identifier right.name
        ++ clauseSql "" (constraint.map JoinConstraint.sql)
    rw [ih, hconstraint]
    simp only [List.append_assoc, List.cons_append, List.append_nil]

theorem OrderTerm.sql_skeleton (term : OrderTerm) : term.skeleton.sql = term.sql := by
  obtain ⟨expr, direction, nulls⟩ := term
  cases nulls with
  | none =>
    change expr.skeleton.sql ++ ' ' :: (direction.sql.toList ++ []) =
      expr.sql ++ ' ' :: direction.sql.toList ++ []
    rw [expr.sql_skeleton, List.append_assoc]
    rfl
  | some nulls =>
    change expr.skeleton.sql ++ ' ' :: (direction.sql.toList ++ ' ' :: nulls.sql.toList) =
      expr.sql ++ ' ' :: direction.sql.toList ++ ' ' :: nulls.sql.toList
    rw [expr.sql_skeleton, List.append_assoc]
    rfl

theorem SelectPart.sql_skeleton (p : SelectPart) : p.skeleton.sql = p.headSql := by
  have hcolumns := separated_map_skeleton
    (f := fun c : ResultColumn => c.expr.skeleton) (fun c => c.expr.sql_skeleton) p.columns
  have hfilter := clauseSql_map_skeleton Filter.sql_skeleton " WHERE " p.filter
  have hgroups := clauseSql_map_skeleton
    (u := fun columns : List Skeleton.Column => Sql.separated ", " (columns.map Skeleton.Column.sql))
    (separated_map_skeleton Column.sql_skeleton) " GROUP BY " p.groupBy
  have hhaving := clauseSql_map_skeleton Filter.sql_skeleton " HAVING " p.having
  unfold Skeleton.Part.sql headSql
  rw [← p.relation.sql_skeleton, ← hcolumns, ← hfilter, ← hgroups, ← hhaving]
  simp only [List.append_assoc]
  rfl

theorem trailingSql_skeleton (orderBy : Option OrderBy) (limit : Option Limit) :
    (trailingSkeleton orderBy limit).sql = trailingSql orderBy limit := by
  have horder := clauseSql_map_skeleton (t := OrderBy.sql)
    (u := fun terms : List Skeleton.OrderTerm =>
      Sql.separated ", " (terms.map Skeleton.OrderTerm.sql))
    (fun order => separated_map_skeleton OrderTerm.sql_skeleton order.terms) " ORDER BY " orderBy
  have hlimit : clauseSql " LIMIT " (limit.map Skeleton.limitSql) =
      clauseSql " " (limit.map Limit.sql) := by
    cases limit with
    | none => rfl
    | some l =>
      change ' ' :: ("LIMIT ".toList ++ (Nat.toDigits 10 l.count ++ (" OFFSET ".toList ++
          Nat.toDigits 10 l.offset))) =
        ' ' :: ("LIMIT ".toList ++ Nat.toDigits 10 l.count ++ " OFFSET ".toList ++
          Nat.toDigits 10 l.offset)
      rw [List.append_assoc, List.append_assoc]
  unfold Skeleton.Trailing.sql trailingSql
  rw [← hlimit]
  exact congrArg (· ++ _) horder

/-- A selection is written as its skeleton if no part after the first one is sorted or limited: what
those parts would write last would stand in front of the end of the whole. -/
theorem Select.sql_skeleton {q : Select} (h : q.NestedPlain) : q.skeleton.sql = q.sql := by
  induction q with
  | simple part =>
    change part.skeleton.sql ++ (trailingSkeleton part.orderBy part.limit).sql =
      part.headSql ++ trailingSql part.orderBy part.limit
    rw [part.sql_skeleton, trailingSql_skeleton]
  | compound part op other ih =>
    obtain ⟨horder, hlimit⟩ := h other.part (by rw [parts, List.tail_cons, parts_eq]; simp)
    have hother : other.NestedPlain := fun p hp => h p (List.mem_of_mem_tail hp)
    -- The selection after the operator writes nothing last, so its parts are parts of the whole.
    have hsql := ih hother
    unfold skeleton Skeleton.Select.sql at hsql
    rw [horder, hlimit] at hsql
    change part.skeleton.sql ++ (((' ' :: (op.sql.toList ++ ' ' :: other.part.skeleton.sql)) ++
        other.others.flatMap Skeleton.otherSql) ++
        (trailingSkeleton part.orderBy part.limit).sql) =
      part.headSql ++ ' ' :: op.sql.toList ++ ' ' :: other.sql
        ++ trailingSql part.orderBy part.limit
    rw [part.sql_skeleton, trailingSql_skeleton, ← hsql]
    simp only [List.append_assoc, List.cons_append, trailingSql_skeleton]
    rfl

theorem filterSql_map_skeleton (filter : Option Filter) :
    Skeleton.filterSql (filter.map Filter.skeleton) =
      clauseSql " WHERE " (filter.map Filter.sql) :=
  clauseSql_map_skeleton Filter.sql_skeleton " WHERE " filter

/-- A query is written as its skeleton if no part after the first one is sorted or limited. -/
theorem Query.sql_skeleton {q : Query} (h : q.NestedPlain) : q.skeleton.sql = q.sql := by
  cases q with
  | select q => exact Select.sql_skeleton (h q rfl)
  | insert q =>
    obtain ⟨table, columns⟩ := q
    cases columns with
    | nil =>
      change "INSERT INTO ".toList ++ (Sql.identifier table.name ++ " DEFAULT VALUES".toList) =
        "INSERT INTO ".toList ++ Sql.identifier table.name ++ " DEFAULT VALUES".toList
      rw [List.append_assoc]
    | cons c columns =>
      have hnames := namesSql_map (c :: columns)
      change "INSERT INTO ".toList ++ (Sql.identifier table.name ++ (" (".toList ++
          (Skeleton.namesSql ((c :: columns).map Column.name) ++ (") VALUES (".toList ++
            (placeholders ((columns.map Column.name).length + 1) ++ [')']))))) =
        "INSERT INTO ".toList ++ Sql.identifier table.name ++ " (".toList
          ++ bareNames (c :: columns) ++ ") VALUES (".toList
          ++ placeholders (columns.length + 1) ++ [')']
      rw [hnames, List.length_map]
      simp only [List.append_assoc]
  | update q =>
    have hnames := namesSql_map q.columns
    have hfilter := filterSql_map_skeleton q.filter
    have htrailing := trailingSql_skeleton q.orderBy q.limit
    change "UPDATE ".toList ++ (Sql.identifier q.table.name ++ (" SET (".toList ++
        (Skeleton.namesSql (q.columns.map Column.name) ++ (") = (".toList ++
          (placeholders (q.columns.map Column.name).length ++
            ')' :: (Skeleton.filterSql (q.filter.map Filter.skeleton) ++
              (trailingSkeleton q.orderBy q.limit).sql)))))) =
      "UPDATE ".toList ++ Sql.identifier q.table.name ++ " SET (".toList ++ bareNames q.columns
        ++ ") = (".toList ++ placeholders q.columns.length ++ ')' ::
        (clauseSql " WHERE " (q.filter.map Filter.sql) ++ trailingSql q.orderBy q.limit)
    rw [hnames, hfilter, htrailing, List.length_map]
    simp only [List.append_assoc]
  | delete q =>
    have hfilter := filterSql_map_skeleton q.filter
    have htrailing := trailingSql_skeleton q.orderBy q.limit
    change "DELETE FROM ".toList ++ (Sql.identifier q.table.name ++
        (Skeleton.filterSql (q.filter.map Filter.skeleton) ++
          (trailingSkeleton q.orderBy q.limit).sql)) =
      "DELETE FROM ".toList ++ Sql.identifier q.table.name
        ++ clauseSql " WHERE " (q.filter.map Filter.sql) ++ trailingSql q.orderBy q.limit
    rw [hfilter, htrailing]
    simp only [List.append_assoc]
  | count q =>
    have hfilter := filterSql_map_skeleton q.filter
    change "SELECT COUNT(*) FROM ".toList ++ (Sql.identifier q.table.name ++
        Skeleton.filterSql (q.filter.map Filter.skeleton)) =
      "SELECT COUNT(*) FROM ".toList ++ Sql.identifier q.table.name
        ++ clauseSql " WHERE " (q.filter.map Filter.sql)
    rw [hfilter, List.append_assoc]

end TypedQuery
