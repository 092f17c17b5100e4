import TypedQuery.Engine.Store

/-!
# Definitions

The statements that change what tables there are.
-/

set_option autoImplicit false

namespace TypedQuery.Engine

/-- A statement that defines something, or fills a table when it is made. -/
inductive Definition where
  | createTable (name : String) (columns : List ColumnDefinition)
  | createView (view : View)
  | addColumn (table : String) (column : ColumnDefinition)
  | insertRow (table : String) (cells : List Cell)
  deriving Repr

namespace Definition

/-- The text in front of the name in a table definition. -/
def createTableStart : List Char := "CREATE TABLE ".toList

/-- The definition of a table in SQL. -/
def tableSql (name : String) (columns : List ColumnDefinition) : List Char :=
  createTableStart ++ Sql.quoted name.toList ++ " (".toList
    ++ Sql.separated ", " (columns.map ColumnDefinition.sql) ++ [')']

/-- The text in front of the name in the definition of a view. -/
def createViewStart : List Char := "CREATE VIEW ".toList

/-- The definition of a view in SQL. -/
def viewSql (view : View) : List Char :=
  let plain := view.plain.map fun column => Sql.quoted column.toList
  let absolute := view.absolute.map fun (name, column) =>
    "abs(".toList ++ Sql.quoted column.toList ++ ") AS ".toList ++ Sql.quoted name.toList
  createViewStart ++ Sql.quoted view.name.toList ++ " AS SELECT ".toList
    ++ Sql.separated ", " (plain ++ absolute) ++ " FROM ".toList ++ Sql.quoted view.base.toList

/-- The first column whose name another one before it has. -/
def repeatedColumn? : List String → List ColumnDefinition → Option ColumnDefinition
  | _, [] => none
  | seen, c :: columns =>
    if seen.any (Text.sameAsciiFold c.name) then some c else repeatedColumn? (c.name :: seen) columns

/-- Whether a name begins, in any case of ASCII letters, with the letters that the engine keeps for
names of its own. -/
def isReserved (name : String) : Bool :=
  Text.sameAsciiFold (String.ofList (name.toList.take 7)) "sqlite_"

/-- Refuses the name of a new table or view that is reserved or taken. The statement has a text in
front of the name. -/
def checkName (store : Store) (name : String) (start sql : List Char) : Except Fault Unit :=
  let shown := String.ofList (Sql.quoted name.toList)
  let sql := String.ofList sql
  if isReserved name then .error (.reservedName name)
  else if (store.table? name).isSome then .error (.tableExists shown sql start.length)
  else if (store.view? name).isSome then .error (.viewExists shown sql start.length)
  else .ok ()

/-- Refuses the columns of a new table if there are none, at the parenthesis that closes their list,
or if two of them have one name. -/
def checkColumns (name : String) (columns : List ColumnDefinition) : Except Fault Unit :=
  let sql := String.ofList (tableSql name columns)
  if columns.isEmpty then .error (.unexpectedToken ")" sql (sql.utf8ByteSize - 1))
  else
    match repeatedColumn? [] columns with
    | some c => .error (.duplicateColumn c.name)
    | none => .ok ()

/-- The store after a statement. -/
def apply (store : Store) : Definition → Except Fault Store
  | .createTable name columns => do
    checkName store name createTableStart (tableSql name columns)
    checkColumns name columns
    return { store with tables := store.tables ++ [⟨name, columns, []⟩] }
  | .createView view => do
    checkName store view.name createViewStart (viewSql view)
    return { store with views := store.views ++ [view] }
  | .addColumn name column =>
    match store.table? name with
    | none => .error (.noSuchTable name)
    | some t =>
      if (t.indexOf? column.name).isSome then .error (.duplicateColumn column.name)
      else
        let cell := column.affinity.store column.constraints.default
        .ok (store.putTable
          { t with
            columns := t.columns ++ [column]
            rows := t.rows.map fun row => { row with cells := row.cells ++ [cell] } })
  | .insertRow name cells =>
    match store.table? name with
    | none => .error (.noSuchTable name)
    | some t => (t.insert ((t.columns.map ColumnDefinition.name).zip (cells.map taken))).map fun (t, _) =>
        store.putTable t

end Definition

end TypedQuery.Engine
