import TypedQuery.Engine.Store
import TypedQuery.Filter.Basic

/-!
# Frames

While a query runs, its rows are kept in a frame: a list of fields, each with the table it comes
from, and rows with one value for each field. A value may itself be a fault, which arises only when
the value is asked for.
-/

set_option autoImplicit false

namespace TypedQuery.Engine

/-- A value of a row, or the fault that computing it runs into. -/
abbrev Value := Except Fault Cell

/-- A field of a frame. A computed field has no affinity. -/
structure FrameField where
  table : String
  name : String
  affinity : Option Affinity
  /-- Whether the field holds the numbers by which the rows of the frame are ordered. -/
  isRowNumber : Bool
  deriving Repr

/-- Rows with named values. -/
structure Frame where
  fields : List FrameField
  rows : List (List Value)

/-- The place of a column among the fields. -/
def fieldIndex? (fields : List FrameField) (c : Column) : Option Nat :=
  fields.findIdx? fun f => Text.sameAsciiFold f.table c.tableName && Text.sameAsciiFold f.name c.name

/-- The value of a column in a row; nothing where the row has no such field. -/
def valueOf (fields : List FrameField) (c : Column) (row : List Value) : Value :=
  ((fieldIndex? fields c).bind fun i => row[i]?).getD (.ok .null)

/-- The affinity of a column. -/
def affinityOf (fields : List FrameField) (c : Column) : Option Affinity :=
  (fieldIndex? fields c).bind fun i => fields[i]?.bind FrameField.affinity

/-- A number without its sign; a zero keeps it. -/
def magnitude (x : Double) : Double := if x.abs == Double.zero then x else x.abs

/-- Whether a column holds the row numbers. -/
def isRowNumber (fields : List FrameField) (c : Column) : Bool :=
  ((fieldIndex? fields c).bind fun i => fields[i]?.map FrameField.isRowNumber).getD false

/-- The absolute value of a cell. The least integer has none. -/
def absoluteValue : Cell → Value
  | .null => .ok .null
  | .integer n =>
    if n == Int64.minValue then .error .integerOverflow
    else .ok (.integer (Int64.ofInt n.toInt.natAbs))
  | .real x => .ok (.real (magnitude x))
  | .text bytes | .blob bytes => .ok (.real (magnitude (leadingValue bytes)))

/-- A frame of the stored rows, under the given name. -/
def StoredTable.frame (t : StoredTable) (shownAs : String) : Frame where
  fields := t.columns.map fun c => ⟨shownAs, c.name, some c.affinity, c.isRowNumber⟩
  rows := t.rows.map fun row => row.cells.map .ok

/-- A frame of the rows of a view. -/
def View.frame (v : View) (t : StoredTable) (shownAs : String) : Frame :=
  let cellOf := fun (row : Row) (name : String) =>
    ((t.indexOf? name).bind fun i => row.cells[i]?).getD .null
  let column? := fun (name : String) =>
    t.columns.find? fun c => Text.sameAsciiFold c.name name
  { fields :=
      v.plain.map (fun name => ⟨shownAs, name, (column? name).map ColumnDefinition.affinity,
        ((column? name).map ColumnDefinition.isRowNumber).getD false⟩)
        ++ v.absolute.map fun (name, _) => ⟨shownAs, name, none, false⟩
    rows := t.rows.map fun row =>
      v.plain.map (fun name => .ok (cellOf row name))
        ++ v.absolute.map fun (_, name) => absoluteValue (cellOf row name) }

/-- A frame of the rows of a table or a view. -/
def Store.frame (s : Store) (name : String) : Frame :=
  match s.table? name, s.view? name with
  | some t, _ => t.frame name
  | none, some v =>
    match s.table? v.base with
    | some t => v.frame t name
    | none => ⟨[], []⟩
  | none, none => ⟨[], []⟩

end TypedQuery.Engine
