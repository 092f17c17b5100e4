/-!
# Byte strings

Texts and blobs of the engine are byte strings. They are ordered byte by byte, a proper beginning
of a string coming first.
-/

set_option autoImplicit false

namespace TypedQuery

/-- A byte string. -/
abbrev Bytes := List UInt8

/-- The order of byte strings: the first different byte decides, and a shorter string comes before
its continuations. -/
def Bytes.compare : Bytes → Bytes → Ordering
  | [], [] => .eq
  | [], _ :: _ => .lt
  | _ :: _, [] => .gt
  | a :: as, b :: bs => if a < b then .lt else if b < a then .gt else Bytes.compare as bs

/-- The two hexadecimal digits of a byte, in lower case. -/
def Bytes.hexByte (b : UInt8) : List Char :=
  [Nat.digitChar (b.toNat / 16), Nat.digitChar (b.toNat % 16)]

/-- The bytes in hexadecimal, two lower-case digits each. -/
def Bytes.toHex (bytes : Bytes) : String := String.ofList (bytes.flatMap Bytes.hexByte)

/-- The value of a hexadecimal digit of either case. -/
def Bytes.hexValue? (c : Char) : Option Nat :=
  if '0' ≤ c && c ≤ '9' then some (c.toNat - '0'.toNat)
  else if 'a' ≤ c && c ≤ 'f' then some (c.toNat - 'a'.toNat + 10)
  else if 'A' ≤ c && c ≤ 'F' then some (c.toNat - 'A'.toNat + 10)
  else none

/-- The bytes that pairs of hexadecimal digits stand for. -/
def Bytes.ofHexDigits? : List Char → Option Bytes
  | [] => some []
  | [_] => none
  | high :: low :: rest => do
    let h ← hexValue? high
    let l ← hexValue? low
    let bytes ← ofHexDigits? rest
    return UInt8.ofNat (16 * h + l) :: bytes

/-- The bytes of a hexadecimal text. -/
def Bytes.ofHex? (text : String) : Option Bytes := ofHexDigits? text.toList

end TypedQuery
