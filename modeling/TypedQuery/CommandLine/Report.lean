import TypedQuery.Filter.Slot
import TypedQuery.Schema.Column
import TypedQuery.Value.Json

/-!
# Reports

The texts that the commands print: lists of tables and columns, statements with their parameters,
and rows as a table.
-/

set_option autoImplicit false

namespace TypedQuery.CommandLine

/-- Lines of text, each with its end. -/
def lines (texts : List String) : String := String.join (texts.map (· ++ "\n"))

/-- The text with spaces after it up to a width. -/
def padRight (width : Nat) (text : String) : String :=
  text ++ String.ofList (List.replicate (width - text.length) ' ')

/-- The text with spaces before it up to a width. -/
def padLeft (width : Nat) (text : String) : String :=
  String.ofList (List.replicate (width - text.length) ' ') ++ text

/-- The tables with the number of their columns. -/
def tableList (tables : List Table) : String :=
  if tables.isEmpty then lines ["(no tables)"]
  else lines (tables.map fun t => t.name ++ s!" ({t.fields.length} columns)")

/-- The columns of a table. -/
def columnLines (t : Table) : String :=
  lines (t.name :: t.fields.mapIdx fun position f =>
    "  " ++ padLeft 3 (toString position) ++ " " ++ padRight 24 f.name ++ " " ++ f.tag.name)

/-- A statement with its parameters. -/
def statementText (sql : String) (params : List Param) : String :=
  let bindings :=
    if params.isEmpty then []
    else "" :: "Bindings:" :: params.map fun p => s!"  ?{p.index} = " ++ p.display []
  lines ("Generated SQL:" :: sql :: bindings)

/-- The width of a column: that of its longest value, and at least the bytes of its name. -/
def columnWidth (name : String) (values : List String) : Nat :=
  values.foldl (fun width v => max width v.length) (Utf8.encode name).length

/-- The shown values of a column. -/
def shownColumn (rows : List (List Scalar)) (position : Nat) : List String :=
  rows.filterMap fun row => row[position]?.map Scalar.display

/-- Rows as a table under the names of its columns. -/
def rowsTable (names : List String) (rows : List (List Scalar)) : String :=
  let widths := names.mapIdx fun position name => columnWidth name (shownColumn rows position)
  let line := fun (texts : List String) =>
    String.intercalate " │ " ((widths.zip texts).map fun (width, text) => padRight width text)
  let rule := String.intercalate "─┼─" (widths.map fun width =>
    String.ofList (List.replicate width '─'))
  lines (line names :: rule :: rows.map (fun row => line (row.map Scalar.display))
    ++ ["", s!"{rows.length} row(s) returned"])

end TypedQuery.CommandLine
