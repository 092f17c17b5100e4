import TypedQuery.Calendar.Date
import TypedQuery.Number.Reading

/-!
# Reading dates

Dates and timestamps are read leniently: white space in front of a number is skipped, a number may
have fewer digits than it is written with, and the gap between date and time may be any white
space or none. Timestamps with an offset are read strictly, by position. In both, the first fault
from the left is reported, but a day that does not exist is found in lenient reading only after the
whole text has been read.
-/

set_option autoImplicit false

namespace TypedQuery.Calendar

open TypedQuery.Text (isDigit digitValue trimStart)
open TypedQuery.Number (digitsValue tenTo)

/-- Why a text is no date. -/
inductive Fault where
  | tooShort
  | invalid
  | outOfRange
  | trailing
  deriving DecidableEq, Repr

/-- The description of a fault. -/
def Fault.message : Fault → String
  | .tooShort => "premature end of input"
  | .invalid => "input contains invalid characters"
  | .outOfRange => "input is out of range"
  | .trailing => "trailing input"

/-- A reader takes what it needs from the front of a text and leaves the rest. -/
abbrev Reader (α : Type) := List Char → Except Fault (α × List Char)

/-- The digits at the start of a text, at most `width` of them if there is a width. -/
def takeDigits (width : Option Nat) (cs : List Char) : List Char × List Char :=
  match width with
  | none => cs.span isDigit
  | some w =>
    let ds := (cs.take w).takeWhile isDigit
    (ds, cs.drop ds.length)

/-- A number with at least one digit. -/
def number (width : Option Nat) : Reader Nat := fun cs =>
  let (ds, rest) := takeDigits width cs
  if ds.isEmpty then .error (if cs.isEmpty then .tooShort else .invalid)
  else .ok (digitsValue ds, rest)

/-- The given character. -/
def literal (c : Char) : Reader Unit
  | [] => .error .tooShort
  | d :: rest => if d == c then .ok ((), rest) else .error .invalid

/-- A number of at most two digits within bounds. -/
def field (low high : Nat) : Reader Nat := fun cs => do
  let (n, rest) ← number (some 2) (trimStart cs)
  if low ≤ n && n ≤ high then return (n, rest) else throw .outOfRange

/-- A year: up to four digits, or any count of digits after a sign. -/
def year : Reader Int := fun cs => do
  let (n, rest) ← match trimStart cs with
    | '-' :: after => do
      let (n, rest) ← number none after
      pure (-(n : Int), rest)
    | '+' :: after => do
      let (n, rest) ← number none after
      pure ((n : Int), rest)
    | front => do
      let (n, rest) ← number (some 4) front
      pure ((n : Int), rest)
  if -2147483648 ≤ n && n ≤ 2147483647 then return (n, rest) else throw .outOfRange

/-- The nanoseconds of a fraction: up to nine digits count, further ones are skipped. -/
def nanoseconds : Reader Nat := fun cs => do
  let (ds, rest) := takeDigits (some 9) cs
  if ds.isEmpty then throw (if cs.isEmpty then .tooShort else .invalid)
  return (digitsValue ds * tenTo (9 - ds.length), rest.dropWhile isDigit)

/-- The nanoseconds after a point; none without a point. -/
def fraction : Reader Nat
  | '.' :: rest => nanoseconds rest
  | cs => .ok (0, cs)

/-- Year, month and day, which need not be those of an existing day. -/
def dateParts : Reader (Int × Nat × Nat) := fun cs => do
  let (y, cs) ← year cs
  let (_, cs) ← literal '-' cs
  let (m, cs) ← field 1 12 cs
  let (_, cs) ← literal '-' cs
  let (d, cs) ← field 1 31 cs
  return ((y, m, d), cs)

/-- Hour, minute, second and nanoseconds; second 60 is a leap second. -/
def timeParts : Reader (Nat × Nat × Nat × Nat) := fun cs => do
  let (h, cs) ← field 0 23 cs
  let (_, cs) ← literal ':' cs
  let (m, cs) ← field 0 59 cs
  let (_, cs) ← literal ':' cs
  let (s, cs) ← field 0 60 cs
  let (nanos, cs) ← fraction cs
  return ((h, m, s, nanos), cs)

/-- The time with the given parts, where second 60 is a leap second. -/
def timeOf (hour minute second nanos : Nat) : Except Fault Time :=
  let time? :=
    if second == 60 then Time.ofParts? hour minute 59 (nanos + 1000000000)
    else Time.ofParts? hour minute second nanos
  match time? with
  | some t => .ok t
  | none => .error .outOfRange

/-- The date with the given parts. -/
def dateOf (year : Int) (month day : Nat) : Except Fault Date :=
  match Date.ofParts? year month day with
  | some d => .ok d
  | none => .error .outOfRange

/-- Nothing may follow. -/
def finish (cs : List Char) : Except Fault Unit := if cs.isEmpty then .ok () else .error .trailing

/-- A date. -/
def readDate (text : String) : Except Fault Date := do
  let ((y, m, d), rest) ← dateParts text.toList
  finish rest
  dateOf y m d

/-- A timestamp without an offset. -/
def readTimestamp (text : String) : Except Fault Timestamp := do
  let ((y, m, d), rest) ← dateParts text.toList
  let ((h, min, s, nanos), rest) ← timeParts (trimStart rest)
  finish rest
  let date ← dateOf y m d
  let time ← timeOf h min s nanos
  return ⟨date, time⟩

/-- Exactly `count` digits. -/
def fixedDigits (count : Nat) : Reader Nat := fun cs =>
  let ds := cs.take count
  if ds.length == count && ds.all isDigit then .ok (digitsValue ds, cs.drop count)
  else .error .invalid

/-- The given character, where a text known to be long enough cannot end. -/
def separator (allowed : Char → Bool) : Reader Unit
  | c :: rest => if allowed c then .ok ((), rest) else .error .invalid
  | [] => .error .invalid

/-- Two digits of an offset. -/
def offsetDigits : Reader Nat
  | a :: b :: rest =>
    if isDigit a && isDigit b then .ok (10 * digitValue a + digitValue b, rest)
    else .error .invalid
  | [c] => .error (if c.utf8Size < 2 then .tooShort else .invalid)
  | [] => .error .tooShort

/-- An offset from universal time in minutes: `Z`, or a sign with hours and minutes. The minus sign
may be the hyphen or the mathematical one. -/
def offset : Reader Int
  | [] => .error .tooShort
  | c :: rest => do
    if c == 'Z' || c == 'z' then return (0, rest)
    let negative ←
      if c == '+' then pure false
      else if c == '-' || c == '\u2212' then pure true
      else throw .invalid
    let (hours, rest) ← offsetDigits rest
    let (_, rest) ← literal ':' rest
    let (minutes, rest) ← offsetDigits rest
    if 59 < minutes then throw .outOfRange
    let total : Int := 60 * hours + minutes
    return (if negative then -total else total, rest)

/-- A timestamp with an offset, converted to universal time. Date and time stand at fixed places;
offsets of a day and more are refused. -/
def readInstant (text : String) : Except Fault Timestamp := do
  if text.utf8ByteSize < 19 then throw .tooShort
  let (y, cs) ← fixedDigits 4 text.toList
  let (_, cs) ← separator (· == '-') cs
  let (m, cs) ← fixedDigits 2 cs
  let (_, cs) ← separator (· == '-') cs
  let (d, cs) ← fixedDigits 2 cs
  let date ← dateOf y m d
  let (_, cs) ← separator (fun c => c == 'T' || c == 't' || c == ' ') cs
  let (h, cs) ← fixedDigits 2 cs
  let (_, cs) ← separator (· == ':') cs
  let (min, cs) ← fixedDigits 2 cs
  let (_, cs) ← separator (· == ':') cs
  let (s, cs) ← fixedDigits 2 cs
  let (nanos, cs) ← fraction cs
  let time ← timeOf h min s nanos
  let (minutes, cs) ← offset cs
  finish cs
  if 1440 ≤ minutes.natAbs then throw .outOfRange
  match Timestamp.minusMinutes? ⟨date, time⟩ minutes with
  | some t => return t
  | none => throw .outOfRange

end TypedQuery.Calendar
