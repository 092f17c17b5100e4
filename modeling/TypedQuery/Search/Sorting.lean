import TypedQuery.Filter.Operand
import TypedQuery.Search.Token

/-!
# Written orderings

An ordering in a text: names separated by commas, each with an optional direction and an optional
placement of NULL.

    ordering := term ("," term)*
    term := name ["asc" | "desc"] ["nulls" ("first" | "last")]
-/

set_option autoImplicit false

namespace TypedQuery.Search

/-- A term of an ordering with the name of its column as it is written. -/
structure SortKey where
  column : String
  direction : Direction
  nulls : Option NullPlacement
  deriving DecidableEq, Repr

/-- The direction at the start of a text, with blanks in front. -/
def direction? (cs : List Char) : Option (Direction × List Char) := do
  let rest ← skipSomeBlanks? cs
  match keyword? "asc" rest with
  | some after => return (.ascending, after)
  | none => return (.descending, ← keyword? "desc" rest)

/-- The placement of NULL at the start of a text, with blanks in front. -/
def placement? (cs : List Char) : Option (NullPlacement × List Char) := do
  let rest ← (skipSomeBlanks? cs).bind (keyword? "nulls")
  let rest ← skipSomeBlanks? rest
  match keyword? "first" rest with
  | some after => return (.first, after)
  | none => return (.last, ← keyword? "last" rest)

/-- One term. -/
def sortKey (cs : List Char) : Except (List Char) (SortKey × List Char) := do
  let (column, rest) ← name cs
  let (direction, rest) := (direction? rest).getD (.ascending, rest)
  match placement? rest with
  | some (nulls, rest) => return (⟨column, direction, some nulls⟩, rest)
  | none => return (⟨column, direction, none⟩, rest)

/-- What follows a comma with blanks around it. -/
def comma? (cs : List Char) : Option (List Char) :=
  match skipBlanks cs with
  | ',' :: rest => some (skipBlanks rest)
  | _ => none

/-- The terms after commas, as many as can be read, up to a bound; what cannot be read is left in
the text together with its comma. -/
def moreSortKeys : Nat → List Char → List SortKey × List Char
  | 0, cs => ([], cs)
  | bound + 1, cs =>
    match comma? cs with
    | none => ([], cs)
    | some rest =>
      match sortKey rest with
      | .error _ => ([], cs)
      | .ok (key, rest) =>
        let (keys, rest) := moreSortKeys bound rest
        (key :: keys, rest)

/-- The terms at the start of a text, of which there is at least one. -/
def sortKeys (cs : List Char) : Except (List Char) ((SortKey × List SortKey) × List Char) := do
  let (first, rest) ← sortKey cs
  let (keys, rest) := moreSortKeys rest.length rest
  return ((first, keys), rest)

/-- The ordering term with the column of a table in the place of its name. -/
def SortKey.resolve (table : Table) (key : SortKey) : Except Error OrderBy := do
  let c ← table.column .scalar (.name key.column)
  let order := c.toExpr.order key.direction
  match key.nulls with
  | some nulls => return order.withNulls nulls
  | none => return order

/-- The ordering with further terms. -/
def resolveMore (table : Table) (order : OrderBy) : List SortKey → Except Error OrderBy
  | [] => .ok order
  | key :: rest => do
    let next ← key.resolve table
    resolveMore table (order.andThen next) rest

/-- The ordering that a text spells for a table. -/
def parseOrder (table : Table) (text : String) : Except Error OrderBy := do
  let (first, rest) ← readAll sortKeys text
  let order ← first.resolve table
  resolveMore table order rest

end TypedQuery.Search
