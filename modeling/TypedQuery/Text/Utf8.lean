import TypedQuery.Text.Bytes

/-!
# UTF-8

Texts are stored as bytes, and a byte string need not be well formed. `decode` reads one strictly
and reports the first place where it is broken: either a sequence that no continuation can repair,
with the length of its valid beginning, or a sequence that the end of the input cuts off.
-/

set_option autoImplicit false

namespace TypedQuery.Utf8

/-- Where and how a byte string stops being UTF-8. -/
inductive Fault where
  /-- The first `length` bytes from `index` on begin no character. -/
  | invalid (length index : Nat)
  /-- The input ends inside the character that starts at `index`. -/
  | incomplete (index : Nat)
  deriving DecidableEq, Repr

/-- The description of a fault. -/
def Fault.message : Fault → String
  | .invalid length index =>
    s!"invalid utf-8 sequence of {length} bytes from index {index}"
  | .incomplete index => s!"incomplete utf-8 byte sequence from index {index}"

/-- The bytes of a text. -/
def encode (text : String) : Bytes := text.toList.flatMap String.utf8EncodeChar

/-- A continuation byte, `10xxxxxx`. -/
def isContinuation (b : UInt8) : Bool := 0x80 ≤ b && b ≤ 0xBF

/-- How many bytes the character takes that starts with this byte; none starts with the others. -/
def width? (first : UInt8) : Option Nat :=
  if first ≤ 0x7F then some 1
  else if 0xC2 ≤ first && first ≤ 0xDF then some 2
  else if 0xE0 ≤ first && first ≤ 0xEF then some 3
  else if 0xF0 ≤ first && first ≤ 0xF4 then some 4
  else none

/-- Whether a byte may follow the first one. The narrower bounds keep out overlong forms, the
surrogates and what lies beyond the last code point. -/
def isSecond (first second : UInt8) : Bool :=
  if first == 0xE0 then 0xA0 ≤ second && second ≤ 0xBF
  else if first == 0xED then 0x80 ≤ second && second ≤ 0x9F
  else if first == 0xF0 then 0x90 ≤ second && second ≤ 0xBF
  else if first == 0xF4 then 0x80 ≤ second && second ≤ 0x8F
  else isContinuation second

/-- The six low bits that a continuation byte carries. -/
def payload (b : UInt8) : Nat := b.toNat % 64

/-- The characters of a byte string whose first byte has the given index. -/
def decodeFrom (index : Nat) : Bytes → Except Fault (List Char)
  | [] => .ok []
  | b0 :: rest0 =>
    match width? b0 with
    | none => .error (.invalid 1 index)
    | some 1 => (decodeFrom (index + 1) rest0).map (Char.ofNat b0.toNat :: ·)
    | some w =>
      match rest0 with
      | [] => .error (.incomplete index)
      | b1 :: rest1 =>
        if !isSecond b0 b1 then .error (.invalid 1 index)
        else if w == 2 then
          (decodeFrom (index + 2) rest1).map
            (Char.ofNat (b0.toNat % 32 * 64 + payload b1) :: ·)
        else
          match rest1 with
          | [] => .error (.incomplete index)
          | b2 :: rest2 =>
            if !isContinuation b2 then .error (.invalid 2 index)
            else if w == 3 then
              (decodeFrom (index + 3) rest2).map
                (Char.ofNat ((b0.toNat % 16 * 64 + payload b1) * 64 + payload b2) :: ·)
            else
              match rest2 with
              | [] => .error (.incomplete index)
              | b3 :: rest3 =>
                if !isContinuation b3 then .error (.invalid 3 index)
                else
                  (decodeFrom (index + 4) rest3).map
                    (Char.ofNat (((b0.toNat % 8 * 64 + payload b1) * 64 + payload b2) * 64
                      + payload b3) :: ·)

/-- The text of a byte string, or the first place where it is not UTF-8. -/
def decode (bytes : Bytes) : Except Fault String := (decodeFrom 0 bytes).map String.ofList

end TypedQuery.Utf8
