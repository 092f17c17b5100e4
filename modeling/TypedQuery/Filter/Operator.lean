/-!
# Operators and keywords

The words and signs a statement is put together with, as types.
-/

set_option autoImplicit false

namespace TypedQuery

/-- A comparison. -/
inductive Comparison where
  | eq
  | ne
  | lt
  | gt
  | le
  | ge
  deriving DecidableEq, Repr

/-- The sign of a comparison. -/
def Comparison.sql : Comparison → String
  | .eq => "="
  | .ne => "!="
  | .lt => "<"
  | .gt => ">"
  | .le => "<="
  | .ge => ">="

/-- How a comparison with nothing is written, for those that have a form of their own. -/
def Comparison.nullForm? : Comparison → Option String
  | .eq => some "IS NULL"
  | .ne => some "IS NOT NULL"
  | _ => none

/-- A connective between conditions. -/
inductive Connective where
  | and
  | or
  deriving DecidableEq, Repr

/-- The word of a connective. -/
def Connective.sql : Connective → String
  | .and => "AND"
  | .or => "OR"

/-- The direction of a sorting. -/
inductive Direction where
  | ascending
  | descending
  deriving DecidableEq, Repr

/-- The word of a direction. -/
def Direction.sql : Direction → String
  | .ascending => "ASC"
  | .descending => "DESC"

/-- Where a sorting puts the rows that have nothing to sort by. -/
inductive NullPlacement where
  | first
  | last
  deriving DecidableEq, Repr

/-- The words of a placement. -/
def NullPlacement.sql : NullPlacement → String
  | .first => "NULLS FIRST"
  | .last => "NULLS LAST"

/-- The kinds of join. -/
inductive JoinKind where
  | cross
  | left
  | right
  | full
  | inner
  | naturalLeft
  | naturalRight
  | naturalFull
  | naturalInner
  deriving DecidableEq, Repr

/-- The words of a join. -/
def JoinKind.sql : JoinKind → String
  | .cross => "CROSS JOIN"
  | .left => "LEFT JOIN"
  | .right => "RIGHT JOIN"
  | .full => "FULL JOIN"
  | .inner => "INNER JOIN"
  | .naturalLeft => "NATURAL LEFT JOIN"
  | .naturalRight => "NATURAL RIGHT JOIN"
  | .naturalFull => "NATURAL FULL JOIN"
  | .naturalInner => "NATURAL INNER JOIN"

/-- A natural join compares the columns of equal name and takes no constraint. -/
def JoinKind.isNatural : JoinKind → Bool
  | .naturalLeft | .naturalRight | .naturalFull | .naturalInner => true
  | .cross | .left | .right | .full | .inner => false

/-- Whether rows of the left side without a partner are kept. -/
def JoinKind.keepsLeft : JoinKind → Bool
  | .left | .full | .naturalLeft | .naturalFull => true
  | _ => false

/-- Whether rows of the right side without a partner are kept. -/
def JoinKind.keepsRight : JoinKind → Bool
  | .right | .full | .naturalRight | .naturalFull => true
  | _ => false

/-- The ways of combining the rows of two queries. -/
inductive SetOperator where
  | union
  | unionAll
  | intersect
  | except
  deriving DecidableEq, Repr

/-- The words of a set operator. -/
def SetOperator.sql : SetOperator → String
  | .union => "UNION"
  | .unionAll => "UNION ALL"
  | .intersect => "INTERSECT"
  | .except => "EXCEPT"

/-- The functions that make one value of many. -/
inductive Aggregate where
  | count
  | sum
  | min
  | max
  | avg
  | total
  deriving DecidableEq, Repr

/-- The name of an aggregate. -/
def Aggregate.sql : Aggregate → String
  | .count => "COUNT"
  | .sum => "SUM"
  | .min => "MIN"
  | .max => "MAX"
  | .avg => "AVG"
  | .total => "TOTAL"

end TypedQuery
