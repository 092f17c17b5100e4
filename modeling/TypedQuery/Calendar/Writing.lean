import TypedQuery.Calendar.Date

/-!
# Written dates

The texts of dates and times. Years from 0 to 9999 have four digits; all others have a sign and at
least four digits. A fraction of a second has three, six or nine digits, as few as show it in full.
-/

set_option autoImplicit false

namespace TypedQuery

/-- A number with zeros in front up to the given width. -/
def padded (width n : Nat) : List Char :=
  let ds := Nat.toDigits 10 n
  List.replicate (width - ds.length) '0' ++ ds

/-- A year: four digits, or a sign and at least four digits. -/
def yearText (year : Int) : List Char :=
  if 0 ≤ year && year ≤ 9999 then padded 4 year.toNat
  else (if year < 0 then '-' else '+') :: padded 4 year.natAbs

/-- A fraction of a second with its point, or nothing for a whole second. -/
def fractionText (nanos : Nat) : List Char :=
  if nanos == 0 then []
  else if nanos % 1000000 == 0 then '.' :: padded 3 (nanos / 1000000)
  else if nanos % 1000 == 0 then '.' :: padded 6 (nanos / 1000)
  else '.' :: padded 9 nanos

/-- Year, month and day with hyphens. -/
def Date.chars (d : Date) : List Char :=
  yearText d.year ++ '-' :: padded 2 d.month ++ '-' :: padded 2 d.day

/-- Hour, minute and second with colons, and the fraction. -/
def Time.chars (t : Time) : List Char :=
  padded 2 t.hour ++ ':' :: padded 2 t.minute ++ ':' :: padded 2 t.shownSecond
    ++ fractionText t.shownNanos

/-- The parts of a written date, one after the other. -/
theorem Date.chars_append (d : Date) (rest : List Char) :
    d.chars ++ rest =
      yearText d.year ++ '-' :: (padded 2 d.month ++ '-' :: (padded 2 d.day ++ rest)) := by
  simp [chars]

/-- The parts of a written time, one after the other. -/
theorem Time.chars_append (t : Time) (rest : List Char) :
    t.chars ++ rest =
      padded 2 t.hour ++ ':' :: (padded 2 t.minute ++ ':' :: (padded 2 t.shownSecond ++
        (fractionText t.shownNanos ++ rest))) := by
  simp [chars]

/-- A date as it is stored, such as `2024-02-29`. -/
def Date.text (d : Date) : String := String.ofList d.chars

/-- A timestamp as it is stored, such as `2024-02-29 12:30:00.500`. -/
def Timestamp.text (t : Timestamp) : String :=
  String.ofList (t.date.chars ++ ' ' :: t.time.chars)

/-- A timestamp in coordinated universal time as it is stored, such as
`2024-02-29T12:30:00+00:00`. -/
def Timestamp.utcText (t : Timestamp) : String :=
  String.ofList (t.date.chars ++ 'T' :: t.time.chars ++ ['+', '0', '0', ':', '0', '0'])

/-- A timestamp for inspection. -/
def Timestamp.inspectedText (t : Timestamp) : String :=
  String.ofList (t.date.chars ++ 'T' :: t.time.chars)

/-- A timestamp in coordinated universal time for inspection. -/
def Timestamp.utcInspectedText (t : Timestamp) : String :=
  String.ofList (t.date.chars ++ 'T' :: t.time.chars ++ ['Z'])

end TypedQuery
