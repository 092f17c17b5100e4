import TypedQuery.Number.Layout
import TypedQuery.Text.Escaped
import TypedQuery.Text.Utf8
import TypedQuery.Value.TypeTag

/-!
# Cells and scalars

A cell is what the engine holds at one place of a row. Its texts are byte strings and may be
malformed. A scalar is a cell as the caller sees it when no other type is asked for; its texts are
texts.
-/

set_option autoImplicit false

namespace TypedQuery

/-- A value of the engine. -/
inductive Cell where
  | null
  | integer (n : Int64)
  | real (x : Double)
  | text (bytes : Bytes)
  | blob (bytes : Bytes)
  deriving DecidableEq, Repr

/-- A value of whatever type the engine returned. -/
inductive Scalar where
  | null
  | integer (n : Int64)
  | real (x : Double)
  | text (s : String)
  | blob (bytes : Bytes)
  deriving DecidableEq, Repr

namespace Scalar

/-- The class of the value. -/
def tag : Scalar → TypeTag
  | .null => .null
  | .integer _ => .integer
  | .real _ => .real
  | .text _ => .text
  | .blob _ => .blob

/-- The cell that holds the value. -/
def toCell : Scalar → Cell
  | .null => .null
  | .integer n => .integer n
  | .real x => .real x
  | .text s => .text (Utf8.encode s)
  | .blob bytes => .blob bytes

/-- The value as it is printed in a table; a blob shows its size only. -/
def display : Scalar → String
  | .null => "NULL"
  | .integer n => toString n.toInt
  | .real x => x.plainText
  | .text s => s
  | .blob bytes => s!"<{bytes.length} bytes>"

/-- A list between square brackets, the items separated by commas. -/
def bracketed (items : List String) : String := "[" ++ String.intercalate ", " items ++ "]"

/-- The value with the name of its class, for inspection. -/
def inspect : Scalar → String
  | .null => "Null"
  | .integer n => "Integer(" ++ toString n.toInt ++ ")"
  | .real x => "Real(" ++ x.inspectedText ++ ")"
  | .text s => "Text(" ++ Text.escaped s ++ ")"
  | .blob bytes => "Blob(" ++ bracketed (bytes.map fun b => toString b.toNat) ++ ")"

end Scalar

end TypedQuery
