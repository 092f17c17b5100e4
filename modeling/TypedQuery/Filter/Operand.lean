import TypedQuery.Error
import TypedQuery.Filter.Basic

/-!
# Typed expressions and operands

A column is taken from a table at a value type. What it may be compared with is decided by that
type: a numeric column takes the narrower types whose values it can hold, a text also a lent text,
and every column takes NULL. The comparisons below build filters from typed expressions and
operands, so a filter never compares a column with a value of a foreign type.
-/

set_option autoImplicit false

namespace TypedQuery

namespace ValueType

/-- The types whose values may be compared with a column of the given type. -/
def operandTypes : ValueType → List ValueType
  | .int .int8 => [.int .int8]
  | .int .int16 => [.int .int8, .int .int16, .int .uint8]
  | .int .int32 => [.int .int8, .int .int16, .int .int32, .int .uint8, .int .uint16]
  | .int .int64 =>
    [.int .int8, .int .int16, .int .int32, .int .int64, .int .uint8, .int .uint16, .int .uint32]
  | .int .intSize => [.int .intSize]
  | .int .uint8 => [.int .uint8]
  | .int .uint16 => [.int .uint8, .int .uint16]
  | .int .uint32 => [.int .uint8, .int .uint16, .int .uint32]
  | .int .uint64 => [.int .uint8, .int .uint16, .int .uint32, .int .uint64]
  | .int .uintSize => [.int .uintSize]
  | .single => [.single]
  | .double => [.single, .double]
  | .bool => [.bool]
  | .text => [.text]
  | .words .uint8 => [.words .uint8]
  | .date => [.date]
  | .timestamp => [.timestamp]
  | .instant => [.instant]
  | _ => []

/-- Whether values of the type `v` may be compared with an expression of the type `t`. -/
def admits (t v : ValueType) : Bool :=
  match t, v with
  | .scalar, v => v == .scalar
  | .optional t, .optional v => t.operandTypes.contains v
  | .optional t, v => t.operandTypes.contains v
  | t, v => t.operandTypes.contains v

/-- Whether a slot with values of the type `v` may be compared with an expression of the type `t`. -/
def admitsSlot (t v : ValueType) : Bool :=
  match t with
  | .scalar => v == .scalar
  | .optional t => t.operandTypes.contains v
  | t => t.operandTypes.contains v

/-- Whether columns of the type may be matched against a pattern. -/
def isLikeable : ValueType → Bool
  | .text | .optional .text | .scalar => true
  | _ => false

end ValueType

/-- What an expression of the type `t` may be compared with. -/
inductive Operand (t : ValueType) where
  | null
  | value (v : ValueType) (x : v.Value) (admitted : t.admits v = true)
  | text (lifetime : Lifetime) (s : String) (isText : t = .text)
  | blob (lifetime : Lifetime) (bytes : Bytes) (isBytes : t = .bytes)
  | slot (v : ValueType) (id : SlotId) (admitted : t.admitsSlot v = true)

namespace Operand

/-- The argument of an operand, if it is fixed and not the literal NULL. A scalar that is nothing
stands for the literal. -/
def comparand {t : ValueType} : Operand t → Comparand
  | .null => .null
  | .value .scalar Scalar.null _ => .null
  | .value v x _ => .param (.ofSource (.fixed (.value v x)))
  | .text lifetime s _ => .param (.ofSource (.fixed (.text lifetime s)))
  | .blob lifetime bytes _ => .param (.ofSource (.fixed (.blob lifetime bytes)))
  | .slot _ id _ => .param (.ofSource (.slot id))

end Operand

/-- What a column may be matched against: a text or a slot of texts. -/
inductive Pattern where
  | text (s : String)
  | lent (lifetime : Lifetime) (s : String)
  | slot (id : SlotId)

/-- The parameter of a pattern. -/
def Pattern.param : Pattern → Param
  | .text s => .ofSource (.fixed (.value .text s))
  | .lent lifetime s => .ofSource (.fixed (.text lifetime s))
  | .slot id => .ofSource (.slot id)

/-- An expression with values of the type `t`. -/
structure TypedExpr (t : ValueType) where
  expr : Expr

namespace TypedColumn

variable {t : ValueType}

/-- The column as an expression. -/
def toExpr (c : TypedColumn t) : TypedExpr t := ⟨.column c.column⟩

/-- The number of rows that have a value. -/
def count (c : TypedColumn t) (distinct : Bool) : TypedExpr (.int .int64) :=
  ⟨.aggregate .count c.column distinct⟩

/-- The sum of the values. -/
def sum (c : TypedColumn t) (distinct : Bool) : TypedExpr t :=
  ⟨.aggregate .sum c.column distinct⟩

/-- The least value. -/
def min (c : TypedColumn t) (distinct : Bool) : TypedExpr t :=
  ⟨.aggregate .min c.column distinct⟩

/-- The greatest value. -/
def max (c : TypedColumn t) (distinct : Bool) : TypedExpr t :=
  ⟨.aggregate .max c.column distinct⟩

/-- The mean of the values. -/
def avg (c : TypedColumn t) (distinct : Bool) : TypedExpr .double :=
  ⟨.aggregate .avg c.column distinct⟩

/-- The sum of the values as a floating-point number, zero if there are none. -/
def total (c : TypedColumn t) (distinct : Bool) : TypedExpr .double :=
  ⟨.aggregate .total c.column distinct⟩

/-- The column against another one of the same type. -/
def compareColumn (c : TypedColumn t) (op : Comparison) (other : TypedColumn t) : Filter :=
  .columns op c.column other.column

/-- The column against a pattern. -/
def like (c : TypedColumn t) (_likeable : t.isLikeable = true) (pattern : Pattern) : Filter :=
  .like c.column pattern.param

end TypedColumn

namespace TypedExpr

variable {t : ValueType}

/-- The expression against a value. -/
def compare (e : TypedExpr t) (op : Comparison) (value : Operand t) : Filter :=
  .compare op e.expr value.comparand false

/-- The same comparison with the value written first. -/
def compareReversed (e : TypedExpr t) (value : Operand t) (op : Comparison) : Filter :=
  .compare op e.expr value.comparand true

/-- Whether the expression has no value. -/
def isNull (e : TypedExpr t) : Filter := e.compare .eq .null

/-- Whether the expression has a value. -/
def isNotNull (e : TypedExpr t) : Filter := e.compare .ne .null

/-- The ordering by the expression. -/
def order (e : TypedExpr t) (direction : Direction) : OrderBy := .single e.expr direction

end TypedExpr

namespace Table

/-- The column that a key names, read at the type `t`. Fails if the table has no such column or if
its tag does not allow the type. -/
def column (table : Table) (t : ValueType) (key : ColumnKey) : Except Error (TypedColumn t) :=
  match table.find? key with
  | none => .error (.columnNotFound table.name key)
  | some c =>
    if accepted : t.accepts c.tag = true then .ok ⟨c, accepted⟩
    else .error (.typeMismatch table.name c.name t.tag c.tag)

/-- Every column, to be read as it is. -/
def allColumns (table : Table) : List (TypedColumn .scalar) :=
  table.columns.map fun c => ⟨c, rfl⟩

end Table

end TypedQuery
