import TypedQuery.Text.ExtenderTable
import TypedQuery.Text.UnprintableTable

/-!
# Escaped text

The form in which a text is shown for inspection: between double quotes, with the quote, the
backslash, the common controls and everything that has no visible form of its own escaped.
-/

set_option autoImplicit false

namespace TypedQuery.Text

/-- The escape that names a code point, such as `\u{301}`. -/
def codePointEscape (c : Char) : List Char :=
  ['\\', 'u', '\x7b'] ++ Nat.toDigits 16 c.toNat ++ ['\x7d']

/-- A character as it stands in an escaped text. -/
def escapeChar (c : Char) : List Char :=
  if c == '\x00' then ['\\', '0']
  else if c == '\t' then ['\\', 't']
  else if c == '\r' then ['\\', 'r']
  else if c == '\n' then ['\\', 'n']
  else if c == '"' || c == '\\' then ['\\', c]
  else if extenderRanges.contains c.toNat || unprintableRanges.contains c.toNat then
    codePointEscape c
  else [c]

/-- A text between double quotes, everything without a visible form escaped. -/
def escaped (text : String) : String :=
  String.ofList ('"' :: text.toList.flatMap escapeChar ++ ['"'])

end TypedQuery.Text
