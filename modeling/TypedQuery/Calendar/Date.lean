/-!
# Dates and times of day

Dates of the proleptic Gregorian calendar, times of day down to the nanosecond, and the pairs of
both. A leap second is the second after 23:59:59 or after any other full minute: it is kept as
second 59 with a billion nanoseconds added. Every value carries the proof that it is one.
-/

set_option autoImplicit false

namespace TypedQuery

/-- Whether the year has a 29th of February. -/
def isLeapYear (year : Int) : Bool := year % 4 == 0 && (year % 100 != 0 || year % 400 == 0)

/-- The length of a month. -/
def daysInMonth (year : Int) (month : Nat) : Nat :=
  if month == 2 then if isLeapYear year then 29 else 28
  else if month == 4 || month == 6 || month == 9 || month == 11 then 30
  else 31

/-- No month has more than 31 days, and none fewer than 28. -/
theorem daysInMonth_bounds (year : Int) (month : Nat) :
    28 ≤ daysInMonth year month ∧ daysInMonth year month ≤ 31 := by
  unfold daysInMonth
  repeat' split
  all_goals decide

/-- The day exists, in a year of the supported range. -/
def Date.Valid (year : Int) (month day : Nat) : Prop :=
  -262143 ≤ year ∧ year ≤ 262142 ∧ 1 ≤ month ∧ month ≤ 12 ∧ 1 ≤ day ∧ day ≤ daysInMonth year month

instance (year : Int) (month day : Nat) : Decidable (Date.Valid year month day) := by
  unfold Date.Valid; infer_instance

/-- A day of the calendar. -/
structure Date where
  year : Int
  month : Nat
  day : Nat
  valid : Date.Valid year month day
  deriving DecidableEq

namespace Date

/-- The date with the given parts, if there is such a day. -/
def ofParts? (year : Int) (month day : Nat) : Option Date :=
  if h : Valid year month day then some ⟨year, month, day, h⟩ else none

/-- The first day of 1970. -/
def epoch : Date := ⟨1970, 1, 1, by decide⟩

/-- The next day, if the range does not end here. -/
def next? (d : Date) : Option Date :=
  if d.day < daysInMonth d.year d.month then ofParts? d.year d.month (d.day + 1)
  else if d.month < 12 then ofParts? d.year (d.month + 1) 1
  else ofParts? (d.year + 1) 1 1

/-- The day before, if the range does not begin here. -/
def previous? (d : Date) : Option Date :=
  if 1 < d.day then ofParts? d.year d.month (d.day - 1)
  else if 1 < d.month then ofParts? d.year (d.month - 1) (daysInMonth d.year (d.month - 1))
  else ofParts? (d.year - 1) 12 31

end Date

/-- The time exists; only a leap second has more than a billion nanoseconds. -/
def Time.Valid (hour minute second nanos : Nat) : Prop :=
  hour < 24 ∧ minute < 60 ∧ second < 60 ∧ nanos < 2000000000 ∧ (1000000000 ≤ nanos → second = 59)

instance (hour minute second nanos : Nat) : Decidable (Time.Valid hour minute second nanos) := by
  unfold Time.Valid; infer_instance

/-- A time of day. -/
structure Time where
  hour : Nat
  minute : Nat
  second : Nat
  nanos : Nat
  valid : Time.Valid hour minute second nanos
  deriving DecidableEq

namespace Time

/-- The time with the given parts, if there is one. -/
def ofParts? (hour minute second nanos : Nat) : Option Time :=
  if h : Valid hour minute second nanos then some ⟨hour, minute, second, nanos, h⟩ else none

/-- The start of the day. -/
def midnight : Time := ⟨0, 0, 0, 0, by decide⟩

/-- The second as it is written: a leap second is second 60. -/
def shownSecond (t : Time) : Nat := if 1000000000 ≤ t.nanos then t.second + 1 else t.second

/-- The nanoseconds as they are written, less than a billion. -/
def shownNanos (t : Time) : Nat := t.nanos % 1000000000

theorem shownNanos_lt (t : Time) : t.shownNanos < 1000000000 := Nat.mod_lt _ (by decide)

/-- What is written is the time itself, or second 60 for a leap second. -/
theorem shown_cases (t : Time) :
    (t.nanos < 1000000000 ∧ t.shownSecond = t.second ∧ t.shownNanos = t.nanos) ∨
      (t.second = 59 ∧ t.shownSecond = 60 ∧ t.nanos = t.shownNanos + 1000000000) := by
  obtain ⟨-, -, -, hnanos, hleap⟩ := t.valid
  unfold shownSecond shownNanos
  split <;> omega

end Time

/-- A date and a time of day. -/
structure Timestamp where
  date : Date
  time : Time
  deriving DecidableEq

namespace Timestamp

/-- The start of 1970. -/
def epoch : Timestamp := ⟨Date.epoch, Time.midnight⟩

/-- The time that many minutes earlier, for less than a day in either direction. The seconds, a
leap second included, stay as they are. -/
def minusMinutes? (t : Timestamp) (minutes : Int) : Option Timestamp := do
  let shifted : Int := t.time.hour * 60 + t.time.minute - minutes
  let date ←
    if shifted < 0 then t.date.previous?
    else if 1440 ≤ shifted then t.date.next?
    else some t.date
  let ofDay := (shifted % 1440).toNat
  let time ← Time.ofParts? (ofDay / 60) (ofDay % 60) t.time.second t.time.nanos
  return ⟨date, time⟩

end Timestamp

end TypedQuery
