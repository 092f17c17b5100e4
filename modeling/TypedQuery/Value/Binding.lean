import TypedQuery.Value.Primitive
import TypedQuery.Value.ValueType

/-!
# Binding values

Every value is bound as one primitive. Integers of up to 32 bits are bound as 32-bit integers and
wider ones as 64-bit integers, unsigned numbers keeping their bits; dates are bound as texts and
packed numbers as blobs.

An `Argument` is anything that may be bound: a value of a value type, nothing, or a text or a blob
together with its lifetime.
-/

set_option autoImplicit false

namespace TypedQuery

/-- The primitive of an integer. -/
def IntType.bind (t : IntType) (w : t.Word) : Primitive :=
  if t.width ≤ 32 then .int32 (Int32.ofInt (t.toInt w)) else .int64 (Int64.ofInt (t.toInt w))

/-- The primitive of a value of whatever type. -/
def Scalar.bind : Scalar → Primitive
  | .null => .null
  | .integer n => .int64 n
  | .real x => .double x
  | .text s => .text .transient s
  | .blob bytes => .blob .transient bytes

/-- The lifetime of the blob that a list of numbers is bound as: single bytes are lent as they are,
everything else is packed first. -/
def Element.lifetime : Element → Lifetime
  | .uint8 => .transient
  | _ => .owned

/-- The primitive of a list of numbers. -/
def Element.bind (e : Element) (ws : List e.Word) : Primitive := .blob e.lifetime (e.pack ws)

/-- The primitive of a value. -/
def ValueType.bind : (t : ValueType) → t.Value → Primitive
  | .int t, w => t.bind w
  | .bool, true => .int32 1
  | .bool, false => .int32 0
  | .single, x => .double (Single.toDouble x)
  | .double, x => .double x
  | .text, s => .text .transient s
  | .date, d => .text .owned (Date.text d)
  | .timestamp, t => .text .owned (Timestamp.text t)
  | .instant, t => .text .owned (Timestamp.utcText t)
  | .scalar, v => Scalar.bind v
  | .words e, ws => e.bind ws
  | .array e _, ws => e.bind ws.val
  | .optional _, none => .null
  | .optional t, some v => t.bind v

/-- Something that can be bound to a parameter. -/
inductive Argument where
  | value (t : ValueType) (v : t.Value)
  | null
  | text (lifetime : Lifetime) (s : String)
  | blob (lifetime : Lifetime) (bytes : Bytes)

/-- The primitive that an argument is bound as. Texts and blobs that the argument owns are lent. -/
def Argument.bind : Argument → Primitive
  | .value t v => t.bind v
  | .null => .null
  | .text lifetime s => .text lifetime.lent s
  | .blob lifetime bytes => .blob lifetime.lent bytes

end TypedQuery
