import TypedQuery.CommandLine.Arguments
import TypedQuery.CommandLine.Directory
import TypedQuery.CommandLine.Report
import TypedQuery.Database
import TypedQuery.Search.Condition
import TypedQuery.Search.Sorting
import TypedQuery.Statement.Changing
import TypedQuery.Statement.Selecting

/-!
# Running a command

A command line is understood first, then the settings are read, then the database is opened and
asked. `Workspace.run` goes all the way in a directory that is known as a whole; its stages
`Invocation.plan`, `Directory.openDatabase` and `Plan.run` are there for a caller that looks the files up
one by one.
-/

set_option autoImplicit false

namespace TypedQuery.CommandLine

/-! ## Commands on a database -/

/-- An answer, or why there is none. -/
abbrev Answer (α : Type) := Except Failure α

/-- The answer of the library as one of the command. -/
def answerOf {α : Type} (result : Except TypedQuery.Error α) : Answer α := result.mapError .query

/-- What looking the tables up one after the other yields. -/
def lookUpAll (db : Database) : List String → Answer (List Table)
  | [] => .ok []
  | name :: names => do
    let (result, db) := db.table name
    let t ← answerOf result
    let others ← lookUpAll db names
    return t :: others

/-- The table with a name. -/
def lookUp (store : Engine.Store) (name : String) : Answer Table :=
  answerOf ((Database.ofStore store).table name).1

/-- Lists the tables, or the columns of one. -/
def showSchema (store : Engine.Store) : Option String → Answer String
  | some name => (lookUp store name).map columnLines
  | none => (lookUpAll (.ofStore store) store.tableNames).map tableList

/-- The untyped columns with these names, or all columns if there are no names. -/
def chosenColumns (t : Table) : List String → Answer (List Column)
  | [] => .ok (t.allColumns.map TypedColumn.column)
  | names =>
    answerOf (names.mapM fun name => (t.column .scalar (.name name)).map TypedColumn.column)

/-- The result column that reads a column untyped. -/
def untyped (c : Column) : ResultColumn := ⟨.column c, .scalar⟩

/-- A value that is read with a step, if it is given. -/
def withOptional {α β : Type} (q : α) (value : Option β) (step : α → β → Answer α) : Answer α :=
  match value with
  | some v => step q v
  | none => .ok q

/-- A limit and an offset as they are given; an offset alone goes with the greatest limit. -/
def limitPair : Option Nat → Option Nat → Option (Nat × Nat)
  | some limit, offset => some (limit, offset.getD 0)
  | none, some offset => some (greatestLimit, offset)
  | none, none => none

/-- The selection of the columns from the table, narrowed, sorted and limited as asked. -/
def selection (t : Table) (columns : List Column) (filter order : Option String)
    (limit : Option (Nat × Nat)) : Answer Select := do
  let q ← answerOf (t.select (columns.map untyped))
  let q ← withOptional q filter fun q text =>
    answerOf (do q.filter (← Search.parseFilter t text))
  let q ← withOptional q order fun q text =>
    answerOf (do q.orderBy (← Search.parseOrder t text))
  withOptional q limit fun q (count, offset) => answerOf (q.limitOffset count offset)

/-- A value of a row that is read untyped. -/
def scalarOf : TypedValue → Scalar
  | ⟨.scalar, v⟩ => v
  | _ => .null

/-- Rows in a format. -/
def printedRows (format : OutputFormat) (names : List String) (rows : List (List Scalar)) :
    String :=
  if rows.isEmpty then lines ["(no results)"]
  else
    match format with
    | .json => lines [Json.rowsText names rows]
    | .table => rowsTable names rows

/-- Runs a selection and prints its rows under the names. -/
def printSelection (store : Engine.Store) (format : OutputFormat) (names : List String)
    (q : Select) : Answer String := do
  let statement ← answerOf q.compile
  let (statement, _) := statement.bind [] .all
  let rows ← answerOf (statement.fetchAll store).1
  return printedRows format names (rows.map fun row => row.map scalarOf)

/-- Counts the rows that pass a filter. -/
def printCount (store : Engine.Store) (table : String) (filter : Option String) :
    Answer String := do
  let t ← lookUp store table
  let q ← withOptional t.count filter fun q text =>
    answerOf (do q.withFilter (← Search.parseFilter t text))
  let statement ← answerOf q.compile
  let (statement, _) := statement.bind [] .all
  let count ← answerOf (statement.count store).1
  return lines [toString count]

/-- The removal of the rows that pass a filter. -/
def deletion (t : Table) (filter : Option String) : Answer Delete :=
  withOptional t.delete filter fun q text =>
    answerOf (do q.withFilter (← Search.parseFilter t text))

/-- Removes rows: what is printed, and the store without them. -/
def performDeletion (db : OpenDatabase) (q : Delete) : Answer (String × Engine.Store) := do
  let statement ← answerOf q.compile
  let (statement, _) := statement.bind [] .all
  if db.readOnly then throw (.query (.step statement.sql .readOnly))
  let (store, count) ← answerOf (statement.delete db.store).1
  return (lines [s!"✓ {count} rows affected"], store)

/-- Runs a command: what it prints, and the store after it. -/
def Command.run (db : OpenDatabase) (format : OutputFormat) (command : Command) :
    Answer (String × Engine.Store) :=
  let store := db.store
  match command with
  | .schema table => (showSchema store table).map (·, store)
  | .select table columns filter order limit offset dryRun => do
    let t ← lookUp store table
    let columns ← chosenColumns t columns
    let q ← selection t columns filter order (limitPair limit offset)
    let q := q.numbered
    if dryRun then return (statementText (String.ofList q.sql) q.params, store)
    else
      let text ← printSelection store format (columns.map Column.name) q
      return (text, store)
  | .count table filter => (printCount store table filter).map (·, store)
  | .delete table filter dryRun => do
    let t ← lookUp store table
    let q ← deletion t filter
    let q := q.numbered
    if dryRun then return (statementText (String.ofList q.sql) q.params, store)
    else performDeletion db q

/-! ## Plans -/

/-- What is left to do once the settings are known. -/
structure Plan where
  database : String
  format : OutputFormat
  command : Command
  deriving DecidableEq, Repr

/-- The name of the settings file that is looked for. -/
def settingsFile : String := "tql.toml"

/-- The settings in a text. -/
def readSettings (text : String) : Except SettingsFailure Settings :=
  (Settings.parse text).mapError .refused

/-- The settings in a file that was read. -/
def settingsIn (file : Except FileFault String) : Except SettingsFailure Settings :=
  file.mapError .unreadable >>= readSettings

/-- The settings: those of the file that the command names; else those of the directory, else those
of the user. Only the first file that exists is read. -/
def chosenSettings (readFile : String → Except FileFault String) (homeSettings : Option String) :
    Option String → Answer Settings
  | some path => (settingsIn (readFile path)).mapError (.namedSettings path)
  | none =>
    match readFile settingsFile, homeSettings with
    | .error .missing, some text => (readSettings text).mapError .foundSettings
    | .error .missing, none => .ok .empty
    | file, _ => (settingsIn file).mapError .foundSettings

/-- What a command line asks for under the settings; the command line overrides them. -/
def Invocation.plan (invocation : Invocation) (readFile : String → Except FileFault String)
    (homeSettings : Option String) : Answer Plan := do
  let settings ← chosenSettings readFile homeSettings invocation.settings
  match invocation.database.or settings.database with
  | none => .error .noDatabase
  | some database =>
    return ⟨database, (invocation.format.or settings.format).getD .table, invocation.command⟩

/-- Carries out a plan: what is printed, and the store after it. -/
def Plan.run (p : Plan) (db : OpenDatabase) : Answer (String × Engine.Store) :=
  p.command.run db p.format

/-! ## The whole command -/

/-- What a command leaves behind: its exit code, its output and the line about its failure. -/
structure Output where
  code : Nat
  text : String
  error : Option String
  deriving DecidableEq, Repr

/-- The output of a command line that is not understood. -/
def Output.ofMisuse : Output := ⟨2, "", none⟩

/-- The output of an answer. -/
def Output.ofAnswer : Answer String → Output
  | .ok text => ⟨0, text, none⟩
  | .error failure => ⟨1, "", some (lines ["Error: " ++ failure.message])⟩

/-- What a command finds: its directory, its user's settings, and the database that the environment
names. -/
structure Workspace where
  directory : Directory
  homeSettings : Option String
  environmentDatabase : Option String

/-- Runs a command line in a workspace. -/
def Workspace.run (w : Workspace) (args : List String) : Output :=
  match readArguments w.environmentDatabase args with
  | none => .ofMisuse
  | some invocation => .ofAnswer do
    let plan ← invocation.plan w.directory.readText w.homeSettings
    let db ← w.directory.openDatabase plan.database
    let (text, _) ← plan.run db
    return text

end TypedQuery.CommandLine
