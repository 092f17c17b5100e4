import TypedQuery.Engine.Affinity

/-!
# Patterns

`LIKE` matches a text with a pattern in which `%` stands for any characters and `_` for one. ASCII
letters match in either case. Texts end at the first zero and need not be well formed.
-/

set_option autoImplicit false

namespace TypedQuery.Engine

/-- A continuation byte of a character of several bytes. -/
def isTail (b : UInt8) : Bool := b.toNat / 64 == 2

/-- The bits of the first byte of a character that belong to its code point. -/
def leadBits (b : UInt8) : Nat :=
  let n := b.toNat
  if n < 0xE0 then n % 32
  else if n < 0xF0 then n % 16
  else if n < 0xF8 then n % 8
  else if n < 0xFC then n % 4
  else if n < 0xFE then n % 2
  else 0

/-- The code point of a character that starts with `lead` and goes on with `tail`. What stands for no
character becomes the replacement character. -/
def codePoint (lead : UInt8) (tail : Bytes) : Nat :=
  let value := tail.foldl (fun n b => n * 64 + b.toNat % 64) (leadBits lead)
  if value < 0x80 || value / 0x800 == 0x1B || value / 2 == 0x7FFF then 0xFFFD else value % 0x100000000

/-- The code points of a byte string up to the first zero, however malformed it is. -/
def codePoints : Bytes → List Nat
  | [] => []
  | b :: rest =>
    if b == 0 then []
    else if b.toNat < 0xC0 then b.toNat :: codePoints rest
    else codePoint b (rest.takeWhile isTail) :: codePoints (rest.dropWhile isTail)
termination_by bytes => bytes.length
decreasing_by
  · simp
  · have := (List.dropWhile_suffix (l := rest) isTail).length_le
    simp only [List.length_cons]
    omega

/-- A code point with an upper-case ASCII letter made lower-case. -/
def foldPoint (n : Nat) : Nat := if 0x41 ≤ n && n ≤ 0x5A then n + 32 else n

/-- The ends of a list: the list itself, and all that is left when more and more is taken from its
front. -/
def endsOf : List Nat → List (List Nat)
  | [] => [[]]
  | c :: rest => (c :: rest) :: endsOf rest

/-- What may be left of a text when one more sign of a pattern has been matched, given what may be
left before it, the longest first. Every end of a list that `%` may leave is an end of the longest. -/
def matchSign (sign : Nat) (lefts : List (List Nat)) : List (List Nat) :=
  if sign == 0x25 then (lefts.head?.map endsOf).getD []
  else lefts.filterMap fun
    | [] => none
    | c :: rest => if sign == 0x5F || foldPoint sign == foldPoint c then some rest else none

/-- Whether a pattern matches a text: nothing may be left of the text when all signs have been
matched. -/
def matchesPattern (pattern text : List Nat) : Bool :=
  (pattern.foldl (fun lefts sign => matchSign sign lefts) [text]).any List.isEmpty

/-- The bytes of a value as a pattern or a text to match. -/
def textBytes? : Cell → Option Bytes
  | .null => none
  | .text bytes | .blob bytes => some bytes
  | .integer n => some (Utf8.encode (toString n.toInt))
  | .real x => some (Utf8.encode x.sqlText)

/-- Whether a value matches a pattern; unknown if one of them is nothing. -/
def like? (value pattern : Cell) : Option Bool := do
  let text ← textBytes? value
  let pattern ← textBytes? pattern
  return matchesPattern (codePoints pattern) (codePoints text)

end TypedQuery.Engine
