import TypedQuery.Engine.DefaultValue
import TypedQuery.Engine.Fault
import TypedQuery.Engine.Like
import TypedQuery.Schema.Column

/-!
# The store

What the engine holds: tables with their rows, in the order of their row numbers, and views over
them. Names are found without regard to the case of ASCII letters. Inserting, changing and removing
rows keeps the constraints of a table or fails and changes nothing.

Every table has row numbers, and there are no triggers. Of the clauses in a column definition some are
known (`Constraints.clauses`), and a definition is read up to the first one that is not;
`ColumnDefinition.isKnown` tells the definitions that are read as a whole.
-/

set_option autoImplicit false

namespace TypedQuery.Engine

/-- What a column definition demands of the values. -/
structure Constraints where
  primaryKey : Bool
  /-- Whether the primary key is kept from its greatest value on, and so apart from the row
  numbers. -/
  descending : Bool
  unique : Bool
  notNull : Bool
  /-- Whether a missing value is replaced by the default instead of being refused. -/
  replacesNull : Bool
  /-- The value of a column that is not mentioned in an insertion. -/
  default : Cell
  deriving Repr

namespace Constraints

/-- No demands. -/
def none : Constraints := ⟨false, false, false, false, false, .null⟩

/-- What follows some words, if a text begins with them. -/
def words? : List String → List Char → Option (List Char)
  | [], cs => some cs
  | word :: words, cs => (Search.keyword? word (Search.skipBlanks cs)).bind (words? words)

/-- The clauses without a value and what they demand. A clause comes before those that it goes on. -/
def clauses : List (List String × (Constraints → Constraints)) :=
  [(["primary", "key", "asc"], fun found => { found with primaryKey := true }),
   (["primary", "key", "desc"], fun found => { found with primaryKey := true, descending := true }),
   (["primary", "key"], fun found => { found with primaryKey := true }),
   (["not", "null", "on", "conflict", "replace"],
     fun found => { found with notNull := true, replacesNull := true }),
   (["not", "null"], fun found => { found with notNull := true, replacesNull := false }),
   (["unique"], fun found => { found with unique := true })]

/-- The clause that a text begins with, and what follows it. -/
def clause? (cs : List Char) : Option ((Constraints → Constraints) × List Char) :=
  (clauses.findSome? fun (words, demand) => (words? words cs).map fun rest => (demand, rest)).or
    ((words? ["default"] cs).bind fun rest =>
      (defaultValue? rest.length false rest).map fun (value, rest) =>
        (fun found => { found with default := value }, rest))

/-- Reads the clauses of a column definition one after the other, up to a bound on their number: what
they demand, and the text from the first clause on that is not one of these. -/
def readFrom : Nat → List Char → Constraints → Constraints × List Char
  | 0, cs, found => (found, cs)
  | bound + 1, cs, found =>
    match clause? cs with
    | some (demand, rest) => readFrom bound rest (demand found)
    | .none => (found, Search.skipBlanks cs)

/-- Reads the clauses after a column's type. -/
def read (text : String) : Constraints × List Char := readFrom (text.length + 1) text.toList none

end Constraints

/-- The definition of a column. -/
structure ColumnDefinition where
  name : String
  /-- The name of its type, which may be empty. No clause stands in it. -/
  declared : String
  /-- The clauses behind the type. -/
  constraint : String
  deriving Repr

namespace ColumnDefinition

/-- What the column demands of its values. -/
def constraints (c : ColumnDefinition) : Constraints := (Constraints.read c.constraint).1

/-- Whether all clauses of the definition are known. The others (`CHECK`, `COLLATE`, `REFERENCES`,
`AUTOINCREMENT`, and `ON CONFLICT` but for the one that is) demand nothing here. -/
def isKnown (c : ColumnDefinition) : Bool := (Constraints.read c.constraint).2.isEmpty

/-- The class of values that the column prefers. -/
def affinity (c : ColumnDefinition) : Affinity := .ofDeclared c.declared

/-- Whether the column holds the row numbers: it is the primary key, from the least value on, and
declared as exactly the integers. -/
def isRowNumber (c : ColumnDefinition) : Bool :=
  c.constraints.primaryKey && !c.constraints.descending && Text.sameAsciiFold c.declared "integer"

/-- Whether no two rows may agree in the column. -/
def isUnique (c : ColumnDefinition) : Bool :=
  (c.constraints.primaryKey || c.constraints.unique) && !c.isRowNumber

/-- What the column keeps of a value: the value as its affinity stores it, or its default in the place
of a missing value that its definition replaces. -/
def keep (c : ColumnDefinition) (cell : Cell) : Cell :=
  if cell == .null && c.constraints.replacesNull && !c.isRowNumber then
    c.affinity.store c.constraints.default
  else c.affinity.store cell

/-- The column in a table definition. -/
def sql (c : ColumnDefinition) : List Char :=
  Sql.quoted c.name.toList ++ ' ' :: c.declared.toList
    ++ (if c.constraint.isEmpty then [] else ' ' :: c.constraint.toList)

end ColumnDefinition

/-- A row with its number. -/
structure Row where
  id : Int64
  cells : List Cell
  deriving Repr

/-- A table with its rows, in the order of their numbers. -/
structure StoredTable where
  name : String
  columns : List ColumnDefinition
  rows : List Row
  deriving Repr

/-- A view over a table: some of its columns, and the absolute values of others under a name. -/
structure View where
  name : String
  base : String
  plain : List String
  absolute : List (String × String)
  deriving Repr

/-- The contents of a database. -/
structure Store where
  tables : List StoredTable
  views : List View
  deriving Repr

namespace StoredTable

/-- The position of the column with a name. -/
def indexOf? (t : StoredTable) (name : String) : Option Nat :=
  t.columns.findIdx? fun c => Text.sameAsciiFold c.name name

/-- The least number above those of all rows. -/
def nextId (t : StoredTable) : Int64 :=
  match t.rows.getLast? with
  | some row => row.id + 1
  | none => 1

/-- The rows with one more, in the order of their numbers. -/
def insertRow (row : Row) : List Row → List Row
  | [] => [row]
  | r :: rest => if row.id.toInt < r.id.toInt then row :: r :: rest else r :: insertRow row rest

/-- The first column that has to have a value and has none. -/
def missingValue? : List ColumnDefinition → List Cell → Option ColumnDefinition
  | c :: columns, cell :: cells =>
    if c.constraints.notNull && !c.isRowNumber && cell == .null then some c
    else missingValue? columns cells
  | _, _ => none

/-- The first unique column in which the cells agree with one of the other rows. -/
def repeatedValue? (others : List Row) : Nat → List ColumnDefinition → List Cell →
    Option ColumnDefinition
  | position, c :: columns, cell :: cells =>
    let clashes := others.any fun row => sameCells (row.cells.getD position .null) cell
    if c.isUnique && cell != .null && clashes then some c
    else repeatedValue? others (position + 1) columns cells
  | _, _, _ => none

/-- Refuses a row that breaks a constraint next to the other rows of the table: a missing value is
found first, then a row number in use, then a repeated value. -/
def check (t : StoredTable) (others : List Row) (row : Row) : Except Fault Unit := do
  if let some c := missingValue? t.columns row.cells then .error (.missingValue t.name c.name)
  if others.any fun r => r.id == row.id then
    let key := (t.columns.find? ColumnDefinition.isRowNumber).map ColumnDefinition.name
    .error (.notUnique t.name (key.getD "rowid"))
  if let some c := repeatedValue? others 0 t.columns row.cells then
    .error (.notUnique t.name c.name)

/-- The number of a row by the cells of its row-number column: the given one, or the fallback where
there is no such column. -/
def rowNumber (fallback : Option Int64) : List ColumnDefinition → List Cell →
    Except Fault (Option Int64)
  | c :: columns, cell :: cells =>
    if c.isRowNumber then
      match cell, fallback with
      | .integer n, _ => .ok (some n)
      | .null, some n => .ok (some n)
      | _, _ => .error .datatypeMismatch
    else rowNumber fallback columns cells
  | _, _ => .ok none

/-- The cells with the row number in its column. -/
def withRowNumber (id : Int64) (columns : List ColumnDefinition) (cells : List Cell) : List Cell :=
  (columns.zip cells).map fun (c, cell) => if c.isRowNumber then .integer id else cell

/-- The cells as their columns keep them. -/
def stored (columns : List ColumnDefinition) (cells : List Cell) : List Cell :=
  (columns.zip cells).map fun (c, cell) => c.keep cell

/-- The table with one more row, and the number of that row. Columns without a value take their
default; of two values for one column the first counts. -/
def insert (t : StoredTable) (values : List (String × Cell)) :
    Except Fault (StoredTable × Int64) := do
  let given := fun (c : ColumnDefinition) =>
    match values.find? fun (name, _) => Text.sameAsciiFold name c.name with
    | some (_, cell) => cell
    | none => c.constraints.default
  let cells := stored t.columns (t.columns.map given)
  let id := (← rowNumber (some t.nextId) t.columns cells).getD t.nextId
  let row := ⟨id, withRowNumber id t.columns cells⟩
  t.check t.rows row
  return ({ t with rows := insertRow row t.rows }, id)

/-- The cells of a row after a change; of two values for one column the last counts. -/
def changed (t : StoredTable) (values : List (String × Cell)) (row : Row) : List Cell :=
  (t.columns.zip row.cells).map fun (c, cell) =>
    match values.reverse.find? fun (name, _) => Text.sameAsciiFold name c.name with
    | some (_, value) => value
    | none => cell

/-- The table with one row changed. -/
def updateRow (values : List (String × Cell)) (t : StoredTable) (row : Row) :
    Except Fault StoredTable := do
  let cells := stored t.columns (t.changed values row)
  let id := (← rowNumber none t.columns cells).getD row.id
  let changed := ⟨id, withRowNumber id t.columns cells⟩
  let others := t.rows.filter fun r => r.id != row.id
  t.check others changed
  return { t with rows := insertRow changed others }

/-- The table with the chosen rows changed one after the other. -/
def update (t : StoredTable) (chosen : List Row) (values : List (String × Cell)) :
    Except Fault StoredTable :=
  chosen.foldlM (updateRow values) t

/-- The table without the chosen rows. -/
def delete (t : StoredTable) (chosen : List Row) : StoredTable :=
  { t with rows := t.rows.filter fun r => !chosen.any fun c => c.id == r.id }

end StoredTable

namespace Store

/-- A database without tables. -/
def empty : Store := ⟨[], []⟩

/-- The table with a name. -/
def table? (s : Store) (name : String) : Option StoredTable :=
  s.tables.find? fun t => Text.sameAsciiFold t.name name

/-- The view with a name. -/
def view? (s : Store) (name : String) : Option View :=
  s.views.find? fun v => Text.sameAsciiFold v.name name

/-- The store with a table in the place of the one of the same name. -/
def putTable (s : Store) (table : StoredTable) : Store :=
  { s with tables := s.tables.map fun t => if t.name == table.name then table else t }

/-- The columns of the tables in which the engine keeps its own catalogue. -/
def catalogueColumns (name : String) : List (String × String) :=
  let names := ["sqlite_master", "sqlite_schema", "sqlite_temp_master", "sqlite_temp_schema"]
  if names.any (Text.sameAsciiFold name) then
    [("type", "TEXT"), ("name", "TEXT"), ("tbl_name", "TEXT"), ("rootpage", "INT"), ("sql", "TEXT")]
  else []

/-- The columns of a view with their declared types: a plain column keeps the type it has in the
table, an absolute value has none. -/
def viewColumns (s : Store) (v : View) : List (String × String) :=
  let declared := fun name =>
    (((s.table? v.base).bind fun t => t.columns.find? fun c => Text.sameAsciiFold c.name name).map
      ColumnDefinition.declared).getD ""
  v.plain.map (fun name => (name, declared name)) ++ v.absolute.map fun (name, _) => (name, "")

/-- The columns that the catalogue has for a name, with their declared types; none if there is
neither a table nor a view of that name.

This is an assumption on the engine where its catalogue has more to say: of a name with a NUL
character it reads what comes before that character, it has tables of its own modules, it leaves
generated columns out, and it fails on a view whose table is missing. -/
def columnsOf (s : Store) (name : String) : List (String × String) :=
  match s.table? name, s.view? name with
  | some t, _ => t.columns.map fun c => (c.name, c.declared)
  | none, some v => s.viewColumns v
  | none, none => catalogueColumns name

/-- Whether the engine takes a name for one of its own: it begins like theirs and goes on, the last
sign of that beginning being any character. -/
def isInternal (name : String) : Bool :=
  (like? (.text (Utf8.encode name)) (.text (Utf8.encode "sqlite_%"))).getD false

/-- The names of the tables that are not the engine's own, in byte order. -/
def tableNames (s : Store) : List String :=
  ((s.tables.map StoredTable.name).filter fun name => !isInternal name).mergeSort fun a b =>
    (Bytes.compare (Utf8.encode a) (Utf8.encode b)).isLE

end Store

end TypedQuery.Engine
