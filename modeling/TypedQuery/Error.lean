import TypedQuery.Engine.Fault
import TypedQuery.Filter.Operator
import TypedQuery.Schema.Column
import TypedQuery.Value.Reading

/-!
# Errors

Everything that can be wrong with a query, a row or a statement. An error names its cause; `message`
is its wording, and `isConstruction` tells the errors that are found while a query is put together
from those of the engine.
-/

set_option autoImplicit false

namespace TypedQuery

/-- The parts of a query that an error may be about. -/
inductive Clause where
  | select
  | insert
  | update
  | joinCondition
  | filter
  | groupBy
  | having
  | union
  | orderBy
  | limit
  | offset
  | joinConstraint
  deriving DecidableEq, Repr

/-- The name of a clause. -/
def Clause.name : Clause → String
  | .select => "select"
  | .insert => "insert"
  | .update => "update"
  | .joinCondition => "on"
  | .filter => "where"
  | .groupBy => "group by"
  | .having => "having"
  | .union => "union"
  | .orderBy => "order by"
  | .limit => "limit"
  | .offset => "offset"
  | .joinConstraint => "join constraint"

/-- Why a join cannot have a constraint. -/
inductive JoinFault where
  | naturalOn (kind : JoinKind)
  | naturalUsing (kind : JoinKind)
  | noColumns
  | repeatedColumn (name : String)
  /-- The columns come neither all from the one table nor all from the other. -/
  | mixedTables (left right : String)
  deriving DecidableEq, Repr

/-- The description of a refused constraint. -/
def JoinFault.message : JoinFault → String
  | .naturalOn kind => kind.sql ++ " does not take an ON clause"
  | .naturalUsing kind => kind.sql ++ " does not take a USING clause"
  | .noColumns => "USING needs at least one column"
  | .repeatedColumn name => "duplicate column '" ++ name ++ "' in USING"
  | .mixedTables left right => "USING columns must all belong to " ++ left ++ " or all to " ++ right

/-- Where reading a text stopped: at the byte `position`, in front of `rest`. -/
inductive ParseFault where
  /-- What comes next cannot stand there. -/
  | unexpected (position : Nat) (rest : String)
  /-- The text is complete but goes on. -/
  | trailing (position : Nat) (rest : String)
  deriving DecidableEq, Repr

/-- The byte offset of a fault. -/
def ParseFault.position : ParseFault → Nat
  | .unexpected position _ | .trailing position _ => position

/-- The description of a fault in a text. -/
def ParseFault.message : ParseFault → String
  | .unexpected _ rest =>
    if rest.isEmpty then "Unexpected end of input" else "Unexpected '" ++ rest ++ "'"
  | .trailing _ rest => "Unexpected trailing content: '" ++ rest ++ "'"

/-- An error of the library. -/
inductive Error where
  /-- A clause is given twice. -/
  | clauseAlreadySet (clause : Clause)
  /-- An expression reaches outside the tables of its query. -/
  | tableNotInScope (clause : Clause) (table : String)
  | havingWithoutGroupBy
  | invalidJoinConstraint (fault : JoinFault)
  | limitOutOfRange (clause : Clause) (value : Nat)
  /-- A query with an order or a limit is made part of a union. -/
  | invalidUnion
  | typeMismatch (table column : String) (expected declared : TypeTag)
  | tableNotFound (name : String)
  | columnNotFound (table : String) (key : ColumnKey)
  /-- The engine refuses the text of a statement. -/
  | prepare (sql : String) (fault : Engine.Fault)
  /-- The engine fails while a statement runs. -/
  | step (sql : String) (fault : Engine.Fault)
  | noResult
  | multipleResults
  /-- A cell cannot be read at its type. -/
  | read (fault : ReadFault)
  | arityMismatch (expected got : Nat)
  | parse (fault : ParseFault)
  /-- Any other failure of the engine. -/
  | engine (fault : Engine.Fault)
  deriving DecidableEq, Repr

/-- The greatest limit or offset. -/
def greatestLimit : Nat := 9223372036854775807

/-- The description of a cell that cannot be read. -/
def ReadFault.message : ReadFault → String
  | .cell column fault => s!"Cannot decode column {column}: " ++ fault.message
  | .blobSize expected actual =>
    s!"Size of data ({actual}) does not match size of object ({expected})"
  | .blobAlignment size element =>
    s!"Size of data ({size}) is not a multiple of size of object ({element})"

namespace Error

/-- The description of an error. -/
def message : Error → String
  | .clauseAlreadySet clause =>
    "Cannot apply " ++ clause.name ++ " to query because it already has one"
  | .tableNotInScope clause table =>
    "Cannot apply " ++ clause.name
      ++ " to query because the expression contains a table not in the query: " ++ table
  | .havingWithoutGroupBy => "Cannot apply having to query without a group by"
  | .invalidJoinConstraint fault => "Invalid join constraint: " ++ fault.message
  | .limitOutOfRange clause value =>
    "Cannot apply " ++ clause.name ++ s!" of {value}: the largest accepted value is "
      ++ toString greatestLimit
  | .invalidUnion => "Invalid union: the other query must not have an order by or limit"
  | .typeMismatch table column expected declared =>
    "Column " ++ table ++ "." ++ column ++ " is declared " ++ declared.name
      ++ " but was requested as " ++ expected.name
  | .tableNotFound name => "Table not found: " ++ name
  | .columnNotFound table key => "Column not found: " ++ table ++ "." ++ key.display
  | .prepare sql fault => "Failed to prepare statement \"" ++ sql ++ "\": " ++ fault.message
  | .step sql fault => "Failed to step statement \"" ++ sql ++ "\": " ++ fault.message
  | .noResult => "Select returned no result"
  | .multipleResults => "More than one result returned"
  | .read fault => fault.message
  | .arityMismatch expected got => s!"Expected {expected} values but got {got}"
  | .parse fault => s!"Parse error at position {fault.position}: " ++ fault.message
  | .engine fault => "Database error: " ++ fault.message

/-- Whether the error is found while a query is put together, before the engine is asked. -/
def isConstruction : Error → Bool
  | .clauseAlreadySet _ | .tableNotInScope .. | .havingWithoutGroupBy | .invalidJoinConstraint _
  | .invalidUnion | .limitOutOfRange .. | .typeMismatch .. => true
  | _ => false

/-- The engine's fault behind the error, if there is one. -/
def engineFault? : Error → Option Engine.Fault
  | .prepare _ fault | .step _ fault | .engine fault => some fault
  | _ => none

end Error

end TypedQuery
