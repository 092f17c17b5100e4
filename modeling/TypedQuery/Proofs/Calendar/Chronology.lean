import TypedQuery.Calendar.Date
import TypedQuery.Proofs.Calendar.Padded
import TypedQuery.Proofs.Engine.CellOrder

/-!
# The order of time

The days of the calendar are counted from the first day of 1970 on (`Date.dayNumber`): the count is
zero there, and every next day has the next number. A timestamp is placed in time by its second,
counted from the same day on, and by the nanoseconds since that second began, of which there are
more than a billion within a leap second (`Timestamp.moment`). Moments are linearly ordered, and
their order decides by the year first, then by the month, and so on down to the nanosecond
(`Date.compare_dayNumber`, `Timestamp.compare_moment`).
-/

set_option autoImplicit false

namespace TypedQuery

/-! ## Days -/

/-- The days of the years from the year 1 up to the given one, which does not count. -/
def daysBeforeYear (year : Int) : Int :=
  365 * (year - 1) + (year - 1) / 4 - (year - 1) / 100 + (year - 1) / 400

/-- The days of a year up to the given month, which does not count. -/
def daysBeforeMonth (year : Int) : Nat → Nat
  | 0 | 1 => 0
  | month + 2 => daysBeforeMonth year (month + 1) + daysInMonth year (month + 1)

/-- The days of a year. -/
def yearLength (year : Int) : Nat := if isLeapYear year then 366 else 365

theorem daysBeforeYear_succ (year : Int) :
    daysBeforeYear (year + 1) = daysBeforeYear year + yearLength year := by
  unfold daysBeforeYear yearLength isLeapYear
  simp only [Bool.and_eq_true, Bool.or_eq_true, beq_iff_eq, bne_iff_ne]
  split <;> omega

/-- Every year begins after the years before it have ended. -/
theorem daysBeforeYear_add_le {year year' : Int} (h : year < year') :
    daysBeforeYear year + yearLength year ≤ daysBeforeYear year' := by
  rw [← daysBeforeYear_succ]
  unfold daysBeforeYear
  omega

theorem daysBeforeMonth_succ (year : Int) {month : Nat} (h : 1 ≤ month) :
    daysBeforeMonth year (month + 1) = daysBeforeMonth year month + daysInMonth year month := by
  obtain ⟨m, rfl⟩ := Nat.exists_eq_add_of_le' h
  rfl

/-- Every month begins after the months before it have ended. -/
theorem daysBeforeMonth_add_le (year : Int) {month month' : Nat} (h : 1 ≤ month)
    (hlt : month < month') :
    daysBeforeMonth year month + daysInMonth year month ≤ daysBeforeMonth year month' := by
  induction month', hlt using Nat.le_induction with
  | base => exact (daysBeforeMonth_succ year h).ge
  | succ month' hle ih =>
    rw [daysBeforeMonth_succ year (by omega)]
    omega

/-- The twelve months make the year. -/
theorem daysBeforeMonth_thirteen (year : Int) : daysBeforeMonth year 13 = yearLength year := by
  cases hleap : isLeapYear year <;> simp [daysBeforeMonth, daysInMonth, yearLength, hleap]

namespace Date

/-- The number of a day within its year. -/
def dayOfYear (d : Date) : Nat := daysBeforeMonth d.year d.month + d.day

/-- The days since the first day of 1970. -/
def dayNumber (d : Date) : Int := daysBeforeYear d.year + d.dayOfYear - 719163

theorem dayOfYear_bounds (d : Date) : 1 ≤ d.dayOfYear ∧ d.dayOfYear ≤ yearLength d.year := by
  obtain ⟨-, -, hmonth, hmonth', hday, hday'⟩ := d.valid
  have hend := daysBeforeMonth_add_le d.year hmonth (show d.month < 13 by omega)
  rw [daysBeforeMonth_thirteen] at hend
  unfold dayOfYear
  omega

theorem dayNumber_epoch : epoch.dayNumber = 0 := by decide

theorem ofParts?_eq_some {year : Int} {month day : Nat} {d : Date}
    (h : ofParts? year month day = some d) : d.year = year ∧ d.month = month ∧ d.day = day := by
  unfold ofParts? at h
  split at h
  · obtain rfl := Option.some.inj h
    exact ⟨rfl, rfl, rfl⟩
  · cases h

/-- The next day has the next number. -/
theorem dayNumber_next? {d e : Date} (h : d.next? = some e) : e.dayNumber = d.dayNumber + 1 := by
  obtain ⟨-, -, hmonth, hmonth', hday, hday'⟩ := d.valid
  unfold next? at h
  unfold dayNumber dayOfYear
  split at h
  -- a day that is not the last one of its month
  · obtain ⟨hy, hm, hd⟩ := ofParts?_eq_some h
    rw [hy, hm, hd]
    omega
  · have hlast : d.day = daysInMonth d.year d.month := by omega
    split at h
    -- the last day of a month that is not the last one of its year
    · obtain ⟨hy, hm, hd⟩ := ofParts?_eq_some h
      rw [hy, hm, hd, daysBeforeMonth_succ d.year hmonth]
      omega
    -- the last day of a year
    · obtain ⟨hy, hm, hd⟩ := ofParts?_eq_some h
      have hdecember : d.month = 12 := by omega
      have hlength := daysBeforeMonth_thirteen d.year
      rw [daysBeforeMonth_succ d.year (by decide), ← hdecember] at hlength
      rw [hy, hm, hd, daysBeforeYear_succ, hlast]
      change daysBeforeYear d.year + yearLength d.year + ((0 + 1 : Nat) : Int) - 719163 = _
      omega

/-- Days are ordered by year, month and day. -/
theorem compare_dayNumber (d e : Date) : compare d.dayNumber e.dayNumber =
    (compare d.year e.year).then ((compare d.month e.month).then (compare d.day e.day)) := by
  obtain ⟨-, -, hmonth, -, hday, hlast⟩ := d.valid
  obtain ⟨-, -, hmonth', -, hday', hlast'⟩ := e.valid
  have hbounds := d.dayOfYear_bounds
  have hbounds' := e.dayOfYear_bounds
  refine compare_eq_then ?_ ?_ ?_
  · intro hlt
    have hyear := daysBeforeYear_add_le hlt
    unfold dayNumber
    omega
  · intro hlt
    have hyear := daysBeforeYear_add_le hlt
    unfold dayNumber
    omega
  · intro hyear
    refine compare_eq_then ?_ ?_ ?_
    · intro hlt
      have hend := daysBeforeMonth_add_le d.year hmonth hlt
      unfold dayNumber dayOfYear
      rw [← hyear]
      omega
    · intro hlt
      have hend := daysBeforeMonth_add_le e.year hmonth' hlt
      unfold dayNumber dayOfYear
      rw [hyear]
      omega
    · intro heq
      unfold dayNumber dayOfYear
      rw [hyear, heq]
      exact compare_eq_compare (by omega) (by omega) (by omega)

end Date

/-! ## Times of day -/

namespace Time

/-- The seconds since the start of the day. A leap second has the number of the one before it. -/
def secondOfDay (t : Time) : Nat := (t.hour * 60 + t.minute) * 60 + t.second

theorem secondOfDay_lt (t : Time) : t.secondOfDay < 86400 := by
  obtain ⟨hhour, hminute, hsecond, -, -⟩ := t.valid
  unfold secondOfDay
  omega

/-- Seconds are ordered by hour, minute and second. -/
theorem compare_secondOfDay (t u : Time) :
    compare t.secondOfDay u.secondOfDay = (compare t.hour u.hour).then
      ((compare t.minute u.minute).then (compare t.second u.second)) := by
  obtain ⟨-, hminute, hsecond, -, -⟩ := t.valid
  obtain ⟨-, hminute', hsecond', -, -⟩ := u.valid
  rw [secondOfDay, secondOfDay, compare_mul_add hsecond hsecond', compare_mul_add hminute hminute',
    Ordering.then_assoc]

/-- As it is written, a leap second comes after all of second 59, too. -/
theorem compare_shown (t u : Time) :
    (compare t.shownSecond u.shownSecond).then (compare t.shownNanos u.shownNanos) =
      (compare t.second u.second).then (compare t.nanos u.nanos) := by
  obtain ⟨-, -, hsecond, -, hleap⟩ := t.valid
  obtain ⟨-, -, hsecond', -, hleap'⟩ := u.valid
  -- both sides compare the nanoseconds since the minute began
  have hshown : ∀ t : Time,
      t.shownSecond * 1000000000 + t.shownNanos = t.second * 1000000000 + t.nanos := by
    intro t
    rcases t.shown_cases with ⟨-, heq, hnanos⟩ | ⟨heq, heq', hnanos⟩ <;> omega
  rw [← compare_mul_add t.shownNanos_lt u.shownNanos_lt, hshown, hshown]
  refine compare_eq_then (by omega) (by omega) ?_
  intro heq
  exact compare_eq_compare (by omega) (by omega) (by omega)

end Time

/-! ## Timestamps -/

namespace Timestamp

/-- The seconds since the start of 1970. -/
def seconds (t : Timestamp) : Int := t.date.dayNumber * 86400 + t.time.secondOfDay

/-- The place of a timestamp in time: its second, and the nanoseconds since that second began. -/
def moment (t : Timestamp) : ℤ ×ₗ ℕ := toLex (t.seconds, t.time.nanos)

theorem compare_seconds (t u : Timestamp) : compare t.seconds u.seconds =
    (compare t.date.dayNumber u.date.dayNumber).then
      (compare t.time.secondOfDay u.time.secondOfDay) := by
  have hday := t.time.secondOfDay_lt
  have hday' := u.time.secondOfDay_lt
  unfold seconds
  refine compare_eq_then (by omega) (by omega) ?_
  intro heq
  exact compare_eq_compare (by omega) (by omega) (by omega)

/-- Moments are ordered by the day, then by the second of the day, then by the nanoseconds. -/
theorem compare_moment (t u : Timestamp) : compare t.moment u.moment =
    (compare t.date.dayNumber u.date.dayNumber).then
      ((compare t.time.secondOfDay u.time.secondOfDay).then
        (compare t.time.nanos u.time.nanos)) := by
  rw [moment, moment, compare_toLex, compare_seconds, Ordering.then_assoc]

/-- No two timestamps are the same moment. -/
theorem moment_injective : Function.Injective moment := by
  intro t u h
  have hcompare : compare t.moment u.moment = .eq := compare_eq_iff_eq.mpr h
  rw [compare_moment, Date.compare_dayNumber, Time.compare_secondOfDay] at hcompare
  simp only [Ordering.then_eq_eq, compare_eq_iff_eq] at hcompare
  obtain ⟨⟨hyear, hmonth, hday⟩, ⟨hhour, hminute, hsecond⟩, hnanos⟩ := hcompare
  obtain ⟨⟨year, month, day, hdate⟩, ⟨hour, minute, second, nanos, htime⟩⟩ := t
  obtain ⟨⟨year', month', day', hdate'⟩, ⟨hour', minute', second', nanos', htime'⟩⟩ := u
  subst hyear hmonth hday hhour hminute hsecond hnanos
  rfl

end Timestamp

end TypedQuery
