/-!
# Faults of the engine

What can go wrong inside the engine, when a statement is prepared and when it runs.
-/

set_option autoImplicit false

namespace TypedQuery.Engine

/-- A failure of the engine. The faults of a text carry the text and the byte offset of the token
that was refused. -/
inductive Fault where
  | unexpectedToken (token sql : String) (offset : Nat)
  | incompleteInput
  | tableExists (table sql : String) (offset : Nat)
  | viewExists (view sql : String) (offset : Nat)
  /-- The name is one that only the engine itself may give. -/
  | reservedName (name : String)
  | noSuchTable (table : String)
  | duplicateColumn (column : String)
  | notUnique (table column : String)
  | missingValue (table column : String)
  | datatypeMismatch
  | integerOverflow
  /-- A change of a database that may only be read. -/
  | readOnly
  /-- The file that was opened holds something else. -/
  | notADatabase
  deriving DecidableEq, Repr

/-- The class of a failure that the engine's result code names. -/
inductive Code where
  | unknown
  | constraintViolation
  | typeMismatch
  | readOnly
  | notADatabase
  deriving DecidableEq, Repr

/-- The name of a result code. -/
def Code.name : Code → String
  | .unknown => "Unknown"
  | .constraintViolation => "ConstraintViolation"
  | .typeMismatch => "TypeMismatch"
  | .readOnly => "ReadOnly"
  | .notADatabase => "NotADatabase"

namespace Fault

/-- What is wrong, without the text it was found in. -/
def cause : Fault → String
  | .unexpectedToken token .. => "near \"" ++ token ++ "\": syntax error"
  | .incompleteInput => "incomplete input"
  | .tableExists table .. => "table " ++ table ++ " already exists"
  | .viewExists view .. => "view " ++ view ++ " already exists"
  | .reservedName name => "object name reserved for internal use: " ++ name
  | .noSuchTable table => "no such table: " ++ table
  | .duplicateColumn column => "duplicate column name: " ++ column
  | .notUnique table column => "UNIQUE constraint failed: " ++ table ++ "." ++ column
  | .missingValue table column => "NOT NULL constraint failed: " ++ table ++ "." ++ column
  | .datatypeMismatch => "datatype mismatch"
  | .integerOverflow => "integer overflow"
  | .readOnly => "attempt to write a readonly database"
  | .notADatabase => "file is not a database"

/-- The description of a failure. -/
def message (fault : Fault) : String :=
  match fault with
  | .unexpectedToken _ sql offset | .tableExists _ sql offset | .viewExists _ sql offset =>
    fault.cause ++ " in " ++ sql ++ s!" at offset {offset}"
  | _ => fault.cause

/-- The result code of a failure; the faults that point into a text have none. -/
def code? : Fault → Option Code
  | .unexpectedToken .. | .tableExists .. | .viewExists .. => none
  | .incompleteInput | .reservedName _ | .noSuchTable _ | .duplicateColumn _
  | .integerOverflow => some .unknown
  | .notUnique .. | .missingValue .. => some .constraintViolation
  | .datatypeMismatch => some .typeMismatch
  | .readOnly => some .readOnly
  | .notADatabase => some .notADatabase

/-- The number of a failure in the engine's own list, with the text it has there. -/
def listing : Fault → String
  | .unexpectedToken .. | .incompleteInput | .tableExists .. | .viewExists .. | .reservedName _
  | .noSuchTable _ | .duplicateColumn _ | .integerOverflow => "Error code 1: SQL logic error"
  | .notUnique .. => "Error code 2067: A UNIQUE constraint failed"
  | .missingValue .. => "Error code 1299: A NOT NULL constraint failed"
  | .datatypeMismatch => "Error code 20: Data type mismatch"
  | .readOnly => "Error code 8: Attempt to write a readonly database"
  | .notADatabase => "Error code 26: File opened that is not a database file"

end Fault

end TypedQuery.Engine
