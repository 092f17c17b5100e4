import TypedQuery.Engine.Fault
import TypedQuery.Query.Rendering
import TypedQuery.Text.Utf8

/-!
# Preparation

The engine refuses a text at the first token that cannot stand where it does. This is found here
where the shape of a query has such a token, that is where a list of columns is empty or where an
update or a deletion is sorted or limited; `refusedAt` says which token it is and at which byte
offset it stands.

The engine refuses more texts than these: one with a bare name that it takes as a keyword (`add`,
`isnull`), one with an aggregate among the conditions on rows, and one beyond its limits on the
number of columns or the depth of a condition. What is said of all engines is therefore said with
their preparation as a parameter (`Query.compileWith`), and these refusals are one value of it.
-/

set_option autoImplicit false

namespace TypedQuery.Engine

/-- The number of bytes of a text. -/
def byteCount (cs : List Char) : Nat := (Utf8.encode (String.ofList cs)).length

/-- The first word of a text. -/
def firstWord (cs : List Char) : List Char := cs.takeWhile (· != ' ')

/-- The fault of a text that is refused at the first word of `rest`, which `before` stands in front
of; a text that ends there is incomplete. -/
def refusedAt (sql before rest : List Char) : Fault :=
  if rest.isEmpty then .incompleteInput
  else .unexpectedToken (String.ofList (firstWord rest)) (String.ofList sql) (byteCount before)

/-- The text of a selection in front of the columns it groups by. -/
def beforeGroups (p : SelectPart) : List Char :=
  ({ p with groupBy := none, having := none } : SelectPart).headSql ++ " GROUP BY ".toList

/-- Where a selection is refused, if it is: the text before that place, the selection itself
standing after `before` and in front of `after`. -/
def refusedPart? (before : List Char) (p : SelectPart) (after : List Char) :
    Option (List Char × List Char) :=
  if p.columns.isEmpty then
    let start := before ++ "SELECT  ".toList
    some (start, ((before ++ p.headSql ++ after).drop start.length))
  else
    match p.groupBy with
    | some [] =>
      let start := before ++ beforeGroups p
      let rest := (before ++ p.headSql ++ after).drop start.length
      some (start ++ rest.takeWhile (· == ' '), rest.dropWhile (· == ' '))
    | _ => none

/-- Where a selection is refused that stands after `before` and in front of `after`. -/
def refusedSelect? (before after : List Char) : Select → Option (List Char × List Char)
  | .simple part => refusedPart? before part (trailingSql part.orderBy part.limit ++ after)
  | .compound part op other =>
    let trailing := trailingSql part.orderBy part.limit ++ after
    let between := ' ' :: op.sql.toList ++ [' ']
    (refusedPart? before part (between ++ other.sql ++ trailing)).or
      (refusedSelect? (before ++ part.headSql ++ between) trailing other)

/-- The fault with which a selection is refused, if it is. -/
def selectRefusal? (q : Select) : Option Fault :=
  (refusedSelect? [] [] q).map fun (before, rest) => refusedAt q.sql before rest

/-- The fault of a change that is sorted or limited, if it is; `before` is its text up to there. -/
def trailingRefusal? (sql before : List Char) (orderBy : Option OrderBy) (limit : Option Limit) :
    Option Fault :=
  if orderBy.isSome || limit.isSome then
    some (refusedAt sql (before ++ [' ']) ((trailingSql orderBy limit).drop 1))
  else none

/-- The fault with which an update is refused, if it is. -/
def updateRefusal? (q : Update) : Option Fault :=
  if q.columns.isEmpty then
    let before := "UPDATE ".toList ++ Sql.identifier q.table.name ++ " SET (".toList
    some (refusedAt q.sql before [')'])
  else trailingRefusal? q.sql ({ q with orderBy := none, limit := none } : Update).sql q.orderBy q.limit

/-- The fault with which a deletion is refused, if it is. -/
def deleteRefusal? (q : Delete) : Option Fault :=
  trailingRefusal? q.sql ({ q with orderBy := none, limit := none } : Delete).sql q.orderBy q.limit

end TypedQuery.Engine
