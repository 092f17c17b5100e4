import TypedQuery.Engine.Affinity
import TypedQuery.Search.Token

/-!
# Default values

The value that a column definition gives to the rows that do not mention the column: a number, a
text, a blob or a word, which signs may precede and parentheses may surround. Numbers are written
as the engine writes them: `0x10`, `.5` and `5.` are numbers, and an integer too large for 64 bits is
a real number.
-/

set_option autoImplicit false

namespace TypedQuery.Engine

/-- The value of hexadecimal digits. -/
def hexDigitsValue (ds : List Char) : Nat :=
  ds.foldl (fun n d => 16 * n + (Bytes.hexValue? d).getD 0) 0

/-- Whether a character is a hexadecimal digit. -/
def isHexDigit (c : Char) : Bool := (Bytes.hexValue? c).isSome

/-- A number under a sign, and what follows it. Hexadecimal digits spell the bits of an integer. -/
def signedNumber? (negative : Bool) (cs : List Char) : Option (Cell × List Char) :=
  let (whole, afterWhole) := Number.spanDigits cs
  match whole, afterWhole with
  | ['0'], 'x' :: rest | ['0'], 'X' :: rest =>
    let n := Int64.ofNat (hexDigitsValue (rest.takeWhile isHexDigit))
    some (.integer (if negative then -n else n), rest.dropWhile isHexDigit)
  | _, _ =>
    (Number.unsignedDecimal? cs).map fun (digits, exponent, rest) =>
      let real := Cell.real (Number.decimalValue negative digits exponent)
      if afterWhole.length == rest.length then
        let integer? := Number.int64? (if negative then '-' :: whole else whole)
        ((integer?.map Cell.integer).getD real, rest)
      else (real, rest)

/-- A value with the opposite sign. What spells no number counts as zero. -/
def negated : Cell → Cell
  | .null => .null
  | .integer n => .integer (-n)
  | .real x => .real x.neg
  | .text bytes | .blob bytes =>
    match numeral? bytes with
    | some (.integer n) => .integer (-n)
    | some (.real x) => .real x.neg
    | _ => .integer 0

/-- A value under the sign in front of it. -/
def underSign (negative : Bool) (c : Cell) : Cell := if negative then negated c else c

/-- The cell of a text. -/
def textCell (cs : List Char) : Cell := .text (Utf8.encode (String.ofList cs))

/-- A word as a value: nothing, a truth value, or the text itself. The words for the time at which a
row is inserted are no values. -/
def wordCell? (word : List Char) : Option Cell :=
  match String.ofList (word.map Text.lowerAscii) with
  | "null" => some .null
  | "true" => some (.integer 1)
  | "false" => some (.integer 0)
  | "current_time" | "current_date" | "current_timestamp" => none
  | _ => some (textCell word)

/-- The bytes of a blob up to the closing quote, and what follows. -/
def blobText? (cs : List Char) : Option (Cell × List Char) :=
  match cs.span isHexDigit with
  | (digits, '\'' :: rest) => (Bytes.ofHex? (String.ofList digits)).map fun bytes => (.blob bytes, rest)
  | _ => none

/-- A value without a sign of its own, under the given sign, and what follows it. -/
def plainValue? (negative : Bool) (cs : List Char) : Option (Cell × List Char) :=
  match cs with
  | '\'' :: rest =>
    (Search.untilQuote rest).toOption.map fun (text, rest) => (underSign negative (textCell text), rest)
  | 'x' :: '\'' :: rest | 'X' :: '\'' :: rest =>
    (blobText? rest).map fun (blob, rest) => (underSign negative blob, rest)
  | '"' :: rest =>
    match rest.span (· != '"') with
    | (text, '"' :: rest) => some (underSign negative (textCell text), rest)
    | _ => none
  | _ =>
    (signedNumber? negative cs).or
      (match cs.span Text.isNameChar with
      | ([], _) => none
      | (word, rest) => (wordCell? word).map fun value => (underSign negative value, rest))

/-- A default value and what follows it; the bound is on the number of signs and parentheses. -/
def defaultValue? : Nat → Bool → List Char → Option (Cell × List Char)
  | 0, _, _ => none
  | bound + 1, negative, cs =>
    match Search.skipBlanks cs with
    | '+' :: rest => defaultValue? bound negative rest
    | '-' :: rest => defaultValue? bound (!negative) rest
    | '(' :: rest =>
      match defaultValue? bound negative rest with
      | some (value, rest) =>
        match Search.skipBlanks rest with
        | ')' :: rest => some (value, rest)
        | _ => none
      | none => none
    | cs => plainValue? negative cs

end TypedQuery.Engine
