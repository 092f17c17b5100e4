import TypedQuery.Filter.Operand
import TypedQuery.Search.Token

/-!
# Written conditions

A condition in a text: comparisons of a column with a value, tests for NULL and patterns, combined
with `and`, which binds tighter, and `or`, both grouping to the left, and parentheses. The text is
first read into a `Condition` with the names as they are written; `Condition.resolve` then looks
the names up in a table.

    condition := conjunction ("or" conjunction)*
    conjunction := term ("and" term)*
    term := "(" condition ")" | name "is" ["not"] "null" | name "like" text | name op value
-/

set_option autoImplicit false

namespace TypedQuery.Search

/-- A condition with the names of its columns as they are written. -/
inductive Condition where
  | compare (column : String) (op : Comparison) (value : Scalar)
  | like (column pattern : String)
  | isNull (column : String) (negated : Bool)
  | and (left right : Condition)
  | or (left right : Condition)
  deriving DecidableEq, Repr

/-- What follows `is`: whether `not` stands before `null`, and the rest. -/
def nullTest? (cs : List Char) : Option (Bool × List Char) := do
  let rest ← keyword? "is" cs
  match (skipSomeBlanks? rest).bind (keyword? "not") with
  | some afterNot => return (true, ← (skipSomeBlanks? afterNot).bind (keyword? "null"))
  | none => return (false, ← (skipSomeBlanks? rest).bind (keyword? "null"))

/-- The pattern that follows `like`. -/
def pattern? (cs : List Char) : Option (String × List Char) := do
  let rest ← keyword? "like" cs
  (quotedText (skipBlanks rest)).toOption

/-- A condition on one column. -/
def predicate (cs : List Char) : Except (List Char) (Condition × List Char) := do
  let (column, rest) ← name cs
  let rest := skipBlanks rest
  match nullTest? rest with
  | some (negated, rest) => return (.isNull column negated, rest)
  | none =>
  match pattern? rest with
  | some (pattern, rest) => return (.like column pattern, rest)
  | none =>
    let (op, rest) ← comparison rest
    let (value, rest) ← literal (skipBlanks rest)
    return (.compare column op value, rest)

/-- What follows a connective with blanks around it. -/
def connective? (word : String) (cs : List Char) : Option (List Char) :=
  (keyword? word (skipBlanks cs)).map skipBlanks

/-- What follows a closing parenthesis with blanks before it. -/
def closing? (cs : List Char) : Option (List Char) :=
  match skipBlanks cs with
  | ')' :: rest => some rest
  | _ => none

mutual

/-- Conditions joined by `or`. Every reader here takes a bound on the depth of its calls. -/
def condition : Nat → List Char → Except (List Char) (Condition × List Char)
  | 0, cs => .error cs
  | depth + 1, cs => do
    let (first, rest) ← conjunction depth cs
    return moreConditions depth first rest

/-- The conditions that follow with `or`; one that cannot be read is left in the text together with
its connective. -/
def moreConditions : Nat → Condition → List Char → Condition × List Char
  | 0, left, cs => (left, cs)
  | depth + 1, left, cs =>
    match connective? "or" cs with
    | none => (left, cs)
    | some rest =>
      match conjunction depth rest with
      | .ok (right, rest) => moreConditions depth (.or left right) rest
      | .error _ => (left, cs)

/-- Conditions joined by `and`. -/
def conjunction : Nat → List Char → Except (List Char) (Condition × List Char)
  | 0, cs => .error cs
  | depth + 1, cs => do
    let (first, rest) ← term depth cs
    return moreTerms depth first rest

/-- The conditions that follow with `and`; one that cannot be read is left in the text together with
its connective. -/
def moreTerms : Nat → Condition → List Char → Condition × List Char
  | 0, left, cs => (left, cs)
  | depth + 1, left, cs =>
    match connective? "and" cs with
    | none => (left, cs)
    | some rest =>
      match term depth rest with
      | .ok (right, rest) => moreTerms depth (.and left right) rest
      | .error _ => (left, cs)

/-- A condition between parentheses, or one on a single column. -/
def term : Nat → List Char → Except (List Char) (Condition × List Char)
  | 0, cs => .error cs
  | depth + 1, cs =>
    match cs with
    | '(' :: rest =>
      match condition depth (skipBlanks rest) with
      | .ok (inner, rest) =>
        match closing? rest with
        | some rest => .ok (inner, rest)
        | none => predicate cs
      | .error _ => predicate cs
    | _ => predicate cs

end

/-- A bound on the depth of the calls: each opening parenthesis takes three of them, and each
connective one. -/
def depthFor (cs : List Char) : Nat := 3 * cs.length + 3

/-- The condition at the start of a text. -/
def readCondition (cs : List Char) : Reading Condition := condition (depthFor cs) cs

/-- The condition that a whole text spells. -/
def Condition.parse (text : String) : Except Error Condition := readAll readCondition text

/-- The filter with the columns of a table in the place of their names. -/
def Condition.resolve (table : Table) : Condition → Except Error Filter
  | .compare column op value => do
    let c ← table.column .scalar (.name column)
    return c.toExpr.compare op (.value .scalar value rfl)
  | .like column pattern => do
    let c ← table.column .scalar (.name column)
    return c.like rfl (.text pattern)
  | .isNull column negated => do
    let c ← table.column .scalar (.name column)
    return if negated then c.toExpr.isNotNull else c.toExpr.isNull
  | .and left right => do
    let l ← left.resolve table
    let r ← right.resolve table
    return l.and r
  | .or left right => do
    let l ← left.resolve table
    let r ← right.resolve table
    return l.or r

/-- The filter that a text spells for a table. -/
def parseFilter (table : Table) (text : String) : Except Error Filter := do
  let condition ← Condition.parse text
  condition.resolve table

end TypedQuery.Search
