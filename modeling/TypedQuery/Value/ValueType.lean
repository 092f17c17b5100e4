import TypedQuery.Calendar.Writing
import TypedQuery.Value.Cell
import TypedQuery.Value.Packing

/-!
# Value types

A column is read at a value type. `ValueType` names the types, `ValueType.Value` is the type of the
values that each name stands for, and the functions here are defined by cases on the name.
-/

set_option autoImplicit false

namespace TypedQuery

/-- The name of a value type. -/
inductive ValueType where
  | int (t : IntType)
  | bool
  | single
  | double
  | text
  | date
  /-- A date and a time of day without a place. -/
  | timestamp
  /-- A date and a time of day in universal time. -/
  | instant
  /-- Any value of the engine. -/
  | scalar
  /-- A blob of packed numbers. -/
  | words (e : Element)
  /-- A blob of a fixed count of packed numbers. -/
  | array (e : Element) (count : Nat)
  /-- A value or nothing. -/
  | optional (t : ValueType)
  deriving DecidableEq, Repr

namespace ValueType

/-- The byte strings. -/
abbrev bytes : ValueType := .words .uint8

/-- The values of a type. -/
def Value : ValueType → Type
  | .int t => t.Word
  | .bool => Bool
  | .single => Single
  | .double => Double
  | .text => String
  | .date => Date
  | .timestamp => Timestamp
  | .instant => Timestamp
  | .scalar => Scalar
  | .words e => List e.Word
  | .array e count => { ws : List e.Word // ws.length = count }
  | .optional t => Option t.Value

/-- The tag of the columns that are made for the type. -/
def tag : ValueType → TypeTag
  | .int _ | .bool => .integer
  | .single | .double => .real
  | .text | .date | .timestamp | .instant => .text
  | .scalar => .null
  | .words _ | .array _ _ => .blob
  | .optional t => t.tag

/-- Whether a column with the given tag can be read at the type: the tags agree, or one of the two
sides takes anything. -/
def accepts : ValueType → TypeTag → Bool
  | .scalar, _ => true
  | .optional t, declared => t.accepts declared
  | t, declared => declared == .null || declared == t.tag

/-- The value that a new slot of the type holds by default. -/
def defaultValue : (t : ValueType) → t.Value
  | .int t => t.wrap 0
  | .bool => false
  | .single => Single.zero
  | .double => Double.zero
  | .text => ""
  | .date => Date.epoch
  | .timestamp => Timestamp.epoch
  | .instant => Timestamp.epoch
  | .scalar => Scalar.null
  | .words _ => ([] : List _)
  | .array _ count => ⟨List.replicate count 0, List.length_replicate⟩
  | .optional _ => none

/-- The value as it is shown for inspection. -/
def inspect : (t : ValueType) → t.Value → String
  | .int t, w => toString (t.toInt w)
  | .bool, true => "true"
  | .bool, false => "false"
  | .single, x => Single.inspectedText x
  | .double, x => Double.inspectedText x
  | .text, s => Text.escaped s
  | .date, d => Date.text d
  | .timestamp, t => Timestamp.inspectedText t
  | .instant, t => Timestamp.utcInspectedText t
  | .scalar, v => Scalar.inspect v
  | .words e, ws => Scalar.bracketed (ws.map e.inspect)
  | .array e _, ws => Scalar.bracketed (ws.val.map e.inspect)
  | .optional _, none => "None"
  | .optional t, some v => "Some(" ++ t.inspect v ++ ")"

end ValueType

end TypedQuery
