import TypedQuery.Sql.Name
import TypedQuery.Value.TypeTag
import TypedQuery.Value.ValueType

/-!
# Columns

A table is known by the fields that the engine's catalogue has for it. A column is one field of one
table; it carries what is needed to write it and to tell whose it is. Two columns are the same if
they have the same position in the same table.
-/

set_option autoImplicit false

namespace TypedQuery

/-- The identity of a table. Every spelling of a name that is looked up has its own. -/
structure TableId where
  number : Nat
  deriving DecidableEq, Repr

/-- A column as the catalogue describes it. -/
structure Field where
  name : String
  tag : TypeTag
  deriving DecidableEq, Repr

/-- A column of a table. -/
structure Column where
  table : TableId
  tableName : String
  position : Nat
  name : String
  tag : TypeTag
  deriving DecidableEq, Repr

/-- A loaded table. -/
structure Table where
  id : TableId
  name : String
  fields : List Field
  deriving DecidableEq, Repr

/-- Ways of naming a column of a table. -/
inductive ColumnKey where
  | name (name : String)
  | position (index : Nat)
  deriving DecidableEq, Repr

/-- The key as it is shown. -/
def ColumnKey.display : ColumnKey → String
  | .name text => text
  | .position index => s!"#{index}"

/-- `table.column`, each quoted where needed. -/
def Column.sql (c : Column) : List Char :=
  Sql.identifier c.tableName ++ '.' :: Sql.identifier c.name

/-- The column without its table. -/
def Column.bareSql (c : Column) : List Char := Sql.identifier c.name

/-- The first column whose table is not in scope. -/
def firstOutOfScope (scope : List TableId) (columns : List Column) : Option Column :=
  columns.find? fun c => !scope.contains c.table

namespace Table

/-- The position that a key names, if the table has it. -/
def position? (t : Table) : ColumnKey → Option Nat
  | .name text => t.fields.findIdx? fun f => f.name == text
  | .position index => if index < t.fields.length then some index else none

/-- The column at a position. -/
def columnAt? (t : Table) (position : Nat) : Option Column :=
  t.fields[position]?.map fun f => ⟨t.id, t.name, position, f.name, f.tag⟩

/-- The column that a key names. -/
def find? (t : Table) (key : ColumnKey) : Option Column := (t.position? key).bind t.columnAt?

/-- Every column, in the order of the catalogue. -/
def columns (t : Table) : List Column :=
  t.fields.mapIdx fun position f => ⟨t.id, t.name, position, f.name, f.tag⟩

end Table

/-- A column whose values are read at the type `t`, which its tag allows. -/
structure TypedColumn (t : ValueType) where
  column : Column
  accepted : t.accepts column.tag = true

end TypedQuery
