import TypedQuery.Settings.Document

/-!
# Reading settings

A settings file gives texts to a few keys: the database to open, the form of the output and the
level of logging. The form may also be the only key of a table, under which nothing stands.

    database = "app.db"
    format = 'json'   # or "table"
-/

set_option autoImplicit false

namespace TypedQuery.Settings

/-- The form of output with a name. -/
def namedFormat (name : String) : Except Fault OutputFormat :=
  match name with
  | "table" => .ok .table
  | "json" => .ok .json
  | _ => .error (.unknownFormat name)

/-- The form of output that a value stands for. -/
def formatOf : Entry → Except Fault OutputFormat
  | .text name | .table _ [(name, .emptyList)] | .table _ [(name, .table _ [])] => namedFormat name
  | _ => .error (.unfitValue "format")

/-- The settings with one more value. -/
def withEntry (s : Settings) : String × Entry → Except Fault Settings
  | ("database", .text path) => .ok { s with database := some path }
  | ("log_level", .text level) => .ok { s with logLevel := some level }
  | ("format", value) => return { s with format := some (← formatOf value) }
  | (key, _) =>
    if key == "database" || key == "log_level" then .error (.unfitValue key)
    else .error (.unknownKey key)

/-- The settings that the text of a file makes. -/
def parse (text : String) : Except Fault Settings := do
  (← readDocument text).foldlM withEntry empty

end TypedQuery.Settings
