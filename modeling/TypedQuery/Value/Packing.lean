import TypedQuery.Number.Layout
import TypedQuery.Text.Bytes
import TypedQuery.Value.IntType

/-!
# Packed words

A list of numbers of one fixed size is stored as a blob: each number takes its bytes, least
significant first, and the numbers follow each other without gaps. `Element` is the type of such
numbers, `pack` and `unpack` go between lists and byte strings. A word is kept as its bits, so that
nothing is lost of a floating-point number that is not a number.
-/

set_option autoImplicit false

namespace TypedQuery

/-- The bytes of a number, least significant first; what does not fit is dropped. -/
def Bytes.littleEndian : Nat → Nat → Bytes
  | 0, _ => []
  | size + 1, n => UInt8.ofNat (n % 256) :: Bytes.littleEndian size (n / 256)

/-- The number with the given bytes, least significant first. -/
def Bytes.ofLittleEndian : Bytes → Nat
  | [] => 0
  | b :: rest => b.toNat + 256 * ofLittleEndian rest

/-- A type of numbers that can be packed. -/
inductive Element where
  | int8
  | uint8
  | int16
  | uint16
  | int32
  | uint32
  | int64
  | uint64
  | single
  | double
  deriving DecidableEq, Repr

namespace Element

/-- The number of bytes a packed number takes. -/
def size : Element → Nat
  | .int8 | .uint8 => 1
  | .int16 | .uint16 => 2
  | .int32 | .uint32 | .single => 4
  | .int64 | .uint64 | .double => 8

/-- A number takes at least one byte. -/
theorem size_pos (e : Element) : 0 < e.size := by cases e <;> decide

/-- The numbers of an element type, as bits. -/
abbrev Word (e : Element) : Type := BitVec (8 * e.size)

/-- The bytes of one number. -/
def write (e : Element) (w : e.Word) : Bytes := Bytes.littleEndian e.size w.toNat

/-- The number in the given bytes. -/
def read (e : Element) (bytes : Bytes) : e.Word := BitVec.ofNat _ (Bytes.ofLittleEndian bytes)

/-- The bytes of a list of numbers, one after the other. -/
def packWords (e : Element) (ws : List e.Word) : Bytes := ws.flatMap e.write

/-- As many numbers as asked for, from the start of a byte string. -/
def unpackWords (e : Element) : Nat → Bytes → List e.Word
  | 0, _ => []
  | count + 1, bytes => e.read (bytes.take e.size) :: unpackWords e count (bytes.drop e.size)

/-- The blob of a list of numbers. Single bytes are already packed. -/
def pack (e : Element) : List e.Word → Bytes :=
  match e with
  | .uint8 => fun ws => ws.map UInt8.ofBitVec
  | e => e.packWords

/-- The numbers in a blob; bytes at the end that make no whole number are left out. -/
def unpack (e : Element) : Bytes → List e.Word :=
  match e with
  | .uint8 => fun bytes => bytes.map UInt8.toBitVec
  | e => fun bytes => e.unpackWords (bytes.length / e.size) bytes

/-- The integer type of the same numbers, if there is one. -/
def intType? : Element → Option IntType
  | .int8 => some .int8
  | .uint8 => some .uint8
  | .int16 => some .int16
  | .uint16 => some .uint16
  | .int32 => some .int32
  | .uint32 => some .uint32
  | .int64 => some .int64
  | .uint64 => some .uint64
  | .single | .double => none

/-- A number as it is shown in a list. -/
def inspect (e : Element) (w : e.Word) : String :=
  match e.intType? with
  | some t => toString (t.toInt (w.setWidth t.width))
  | none =>
    if e = .single then Single.inspectedText ⟨UInt32.ofNat w.toNat⟩
    else Double.inspectedText ⟨UInt64.ofNat w.toNat⟩

end Element

end TypedQuery
