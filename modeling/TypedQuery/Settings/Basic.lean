/-!
# Settings

What a settings file decides: the database to open, the form of the output and the level of logging.
-/

set_option autoImplicit false

namespace TypedQuery

/-- How rows are printed. -/
inductive OutputFormat where
  | table
  | json
  deriving DecidableEq, Repr

/-- The contents of a settings file. -/
structure Settings where
  database : Option String
  format : Option OutputFormat
  logLevel : Option String
  deriving DecidableEq, Repr

namespace Settings

/-- Why a settings file is refused. -/
inductive Fault where
  | syntaxError
  | unknownKey (key : String)
  | repeatedKey (key : String)
  | unfitValue (key : String)
  | unknownFormat (value : String)
  deriving DecidableEq, Repr

/-- The description of a refused file. -/
def Fault.message : Fault → String
  | .syntaxError => "expected a key, an equals sign and a value"
  | .unknownKey key => "unknown key: " ++ key
  | .repeatedKey key => "key given twice: " ++ key
  | .unfitValue key => "unfit value of the key: " ++ key
  | .unknownFormat value => "unknown output format: " ++ value

/-- No settings. -/
def empty : Settings := ⟨none, none, none⟩

end Settings

end TypedQuery
