import TypedQuery.Value.Cell

/-!
# Primitives

The engine takes a parameter as one of a few primitives: an integer of 32 or 64 bits, a number of
64 bits, nothing, a text or a blob. A text or a blob also says who owns its bytes up to the moment
of binding; the engine copies them in any case.
-/

set_option autoImplicit false

namespace TypedQuery

/-- Who owns the bytes of a text or a blob that is bound. -/
inductive Lifetime where
  /-- The bytes are handed over. -/
  | owned
  /-- The bytes live as long as the program. -/
  | static
  /-- The bytes are lent while they are bound. -/
  | transient
  deriving DecidableEq, Repr

/-- The lifetime with which stored bytes are bound: bytes that the store owns are lent. -/
def Lifetime.lent : Lifetime → Lifetime
  | .static => .static
  | .owned | .transient => .transient

/-- The name of a lifetime. -/
def Lifetime.name : Lifetime → String
  | .owned => "owned"
  | .static => "static"
  | .transient => "transient"

/-- A parameter as the engine takes it. -/
inductive Primitive where
  | int32 (n : Int32)
  | int64 (n : Int64)
  | double (x : Double)
  | null
  | text (lifetime : Lifetime) (s : String)
  | blob (lifetime : Lifetime) (bytes : Bytes)
  deriving DecidableEq, Repr

namespace Primitive

/-- The kind of a primitive, as it is shown when parameters are bound. -/
def kind : Primitive → String
  | .int32 _ => "int32"
  | .int64 _ => "int64"
  | .double _ => "double"
  | .null => "null"
  | .text lifetime _ => "text(" ++ lifetime.name ++ ")"
  | .blob lifetime _ => "blob(" ++ lifetime.name ++ ")"

/-- The value of a primitive, as it is shown in a list of parameters. -/
def display : Primitive → String
  | .int32 n => toString n.toInt
  | .int64 n => toString n.toInt
  | .double x => x.plainText
  | .null => "NULL"
  | .text _ s => "'" ++ s ++ "'"
  | .blob _ bytes => s!"<{bytes.length} bytes>"

/-- The cell that the engine receives. -/
def toCell : Primitive → Cell
  | .int32 n => .integer n.toInt64
  | .int64 n => .integer n
  | .double x => .real x
  | .null => .null
  | .text _ s => .text (Utf8.encode s)
  | .blob _ bytes => .blob bytes

end Primitive

end TypedQuery
