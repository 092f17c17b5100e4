import TypedQuery.Text.AlphanumericTable
import TypedQuery.Text.NumericTable

/-!
# Character classes

The classes of characters that names, filters and numbers are written with. Letters, digits and
white space are those of the Unicode standard; case is folded for ASCII letters only, since every
word that is matched without regard to case is an ASCII word.
-/

set_option autoImplicit false

namespace TypedQuery.Text

/-- A letter or a digit of any script. -/
def isAlphanumeric (c : Char) : Bool := alphanumericRanges.contains c.toNat

/-- A decimal digit, a letter number or another number of any script. -/
def isNumeric (c : Char) : Bool := numericRanges.contains c.toNat

/-- A character that may stand in a bare name: a letter, a digit or an underscore. -/
def isNameChar (c : Char) : Bool := isAlphanumeric c || c == '_'

/-- The code points of white space. -/
def whiteSpaceRanges : CodeRanges :=
  [(0x9, 0xD), (0x20, 0x20), (0x85, 0x85), (0xA0, 0xA0), (0x1680, 0x1680), (0x2000, 0x200A),
   (0x2028, 0x2029), (0x202F, 0x202F), (0x205F, 0x205F), (0x3000, 0x3000)]

/-- White space of any kind. -/
def isWhiteSpace (c : Char) : Bool := whiteSpaceRanges.contains c.toNat

/-- The characters that separate the tokens of a filter: space, tab and the two line ends. -/
def isBlank (c : Char) : Bool := c == ' ' || c == '\t' || c == '\r' || c == '\n'

/-- An ASCII digit. -/
def isDigit (c : Char) : Bool := '0' ≤ c && c ≤ '9'

/-- The number an ASCII digit stands for. -/
def digitValue (c : Char) : Nat := c.toNat - '0'.toNat

/-- The text without the white space in front. -/
def trimStart (cs : List Char) : List Char := cs.dropWhile isWhiteSpace

/-- The text without the white space at either end. -/
def trim (cs : List Char) : List Char := (trimStart (trimStart cs).reverse).reverse

/-- An upper-case ASCII letter becomes its lower-case form; nothing else changes. -/
def lowerAscii (c : Char) : Char :=
  if 'A' ≤ c && c ≤ 'Z' then Char.ofNat (c.toNat + 32) else c

/-- A lower-case ASCII letter becomes its upper-case form; nothing else changes. -/
def upperAscii (c : Char) : Char :=
  if 'a' ≤ c && c ≤ 'z' then Char.ofNat (c.toNat - 32) else c

/-- Two texts that differ at most in the case of ASCII letters. -/
def sameAsciiFold (a b : String) : Bool := a.toList.map lowerAscii == b.toList.map lowerAscii

/-- The lower-case form of a character as far as it can be an ASCII letter: besides the capital
letters the Kelvin sign has one. -/
def lowerToAscii (c : Char) : Char := if c == '\u212a' then 'k' else lowerAscii c

end TypedQuery.Text
