/-!
# Integer types

The ten integer types a column may be read as. An integer is kept as the bits of its width;
`toInt` is the number they stand for and `ofInt?` the bits of a number in range.
-/

set_option autoImplicit false

namespace TypedQuery

/-- A fixed-width integer type. The two size types are 64 bits wide. -/
inductive IntType where
  | int8
  | int16
  | int32
  | int64
  | intSize
  | uint8
  | uint16
  | uint32
  | uint64
  | uintSize
  deriving DecidableEq, Repr

namespace IntType

/-- The number of bits. -/
def width : IntType → Nat
  | .int8 | .uint8 => 8
  | .int16 | .uint16 => 16
  | .int32 | .uint32 => 32
  | .int64 | .uint64 | .intSize | .uintSize => 64

/-- Whether the numbers of the type have a sign. -/
def signed : IntType → Bool
  | .int8 | .int16 | .int32 | .int64 | .intSize => true
  | .uint8 | .uint16 | .uint32 | .uint64 | .uintSize => false

/-- The integers of a type, as bits. -/
abbrev Word (t : IntType) : Type := BitVec t.width

/-- The number that the bits stand for. -/
def toInt (t : IntType) (w : t.Word) : Int := if t.signed then w.toInt else w.toNat

/-- The integer of this type that is congruent to a number modulo the size of the type. -/
def wrap (t : IntType) (n : Int) : t.Word := BitVec.ofInt t.width n

/-- The integer of this type that stands for a number, if the number is in range. -/
def ofInt? (t : IntType) (n : Int) : Option t.Word :=
  if t.toInt (t.wrap n) = n then some (t.wrap n) else none

end IntType

end TypedQuery
