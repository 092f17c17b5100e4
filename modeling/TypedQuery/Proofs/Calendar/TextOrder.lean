import TypedQuery.Proofs.Calendar.Chronology
import TypedQuery.Proofs.Value.Dates
import Mathlib.Data.Char
import Mathlib.Tactic.Positivity

/-!
# The order of written dates

Written dates are ordered by time as long as their years are written without a sign. Year, month,
day and the parts of the time of day are padded to fixed widths, and so they are compared one after
the other. Only the fraction has several widths. A shorter one ends where a longer one goes on with
a digit: what may follow it, nothing or the sign of an offset, comes before every digit and before
the point of a fraction (`compare_fractionText`). A leap second is written as second 60 and so comes
after second 59 (`Time.compare_chars`).

The texts are ASCII texts, and the order of their bytes is that of their characters
(`Bytes.compare_encode`).
-/

set_option autoImplicit false

namespace TypedQuery

open Text (isDigit)
open Utf8 (IsAscii)

/-! ## Bytes -/

theorem compare_ofNat_toNat {c d : Char} (hc : c.toNat ≤ 127) (hd : d.toNat ≤ 127) :
    compare (UInt8.ofNat c.toNat) (UInt8.ofNat d.toNat) = compare c d := by
  have hc' := Utf8.toNat_ofNat_of_lt (show c.toNat < 256 by omega)
  have hd' := Utf8.toNat_ofNat_of_lt (show d.toNat < 256 by omega)
  have hlt : UInt8.ofNat c.toNat < UInt8.ofNat d.toNat ↔ c < d := by
    rw [UInt8.lt_iff_toNat_lt, hc', hd']
    rfl
  have heq : UInt8.ofNat c.toNat = UInt8.ofNat d.toNat ↔ c = d := by
    rw [← UInt8.toNat_inj, hc', hd', Char.toNat_inj]
  change compareOfLessAndEq _ _ = compareOfLessAndEq _ _
  simp only [compareOfLessAndEq, hlt, heq]

/-- ASCII texts are ordered by their bytes as by their characters. -/
theorem Bytes.compare_encode {cs ds : List Char} (hcs : IsAscii cs) (hds : IsAscii ds) :
    Bytes.compare (Utf8.encode (String.ofList cs)) (Utf8.encode (String.ofList ds)) =
      Ord.compare cs ds := by
  rw [Bytes.compare_eq, Utf8.encode_of_isAscii hcs, Utf8.encode_of_isAscii hds]
  induction cs generalizing ds with
  | nil => cases ds <;> rfl
  | cons c cs ih =>
    cases ds with
    | nil => rfl
    | cons d ds =>
      obtain ⟨hc, hcs⟩ := Utf8.isAscii_cons.mp hcs
      obtain ⟨hd, hds⟩ := Utf8.isAscii_cons.mp hds
      rw [List.map_cons, List.map_cons, List.compare_cons_cons, List.compare_cons_cons,
        compare_ofNat_toNat hc hd, ih hcs hds]

/-! ## Fractions -/

/-- A text that comes before everything that a time goes on with: the point of a fraction, and its
digits. -/
def SortsFirst (rest : List Char) : Prop := ∀ c ∈ rest.head?, c < '.'

theorem SortsFirst.compare_cons {rest : List Char} (h : SortsFirst rest) {c : Char} (hc : '.' ≤ c)
    (cs : List Char) : compare rest (c :: cs) = .lt := by
  cases rest with
  | nil => rfl
  | cons d rest =>
    have hlt : d < c := lt_of_lt_of_le (h d rfl) hc
    rw [List.compare_cons_cons, compare_lt_iff_lt.mpr hlt]
    rfl

theorem SortsFirst.compare_padded {rest : List Char} (h : SortsFirst rest) (width n : Nat)
    (rest' : List Char) : compare rest (padded width n ++ rest') = .lt := by
  obtain ⟨d, ds, hd, hpadded⟩ := padded_eq_cons width n
  have hpoint : '.' ≤ d := by
    simp only [isDigit, Bool.and_eq_true, decide_eq_true_eq] at hd
    exact le_trans (show '.' ≤ '0' by decide) hd.1
  rw [hpadded]
  exact h.compare_cons hpoint _

/-- A shorter fraction comes before the longer ones that begin like it. -/
theorem compare_shorter {k j a b : Nat} (hk : 0 < k) (hj : 0 < j) (ha : a < 10 ^ k)
    (hb : b < 10 ^ (k + j)) (hfull : ¬10 ^ j ∣ b) {rest : List Char} (hrest : SortsFirst rest)
    (rest' : List Char) :
    compare (padded k a ++ rest) (padded (k + j) b ++ rest') = compare (a * 10 ^ j) b := by
  have hbase : 0 < 10 ^ j := by positivity
  have hlow : b % 10 ^ j < 10 ^ j := Nat.mod_lt _ hbase
  have hhigh : b / 10 ^ j < 10 ^ k := by
    rwa [Nat.div_lt_iff_lt_mul hbase, ← Nat.pow_add]
  have hmore : compare 0 (b % 10 ^ j) = .lt :=
    compare_lt_iff_lt.mpr (Nat.pos_of_ne_zero fun heq => hfull (Nat.dvd_of_mod_eq_zero heq))
  have hdigits : padded (k + j) b = padded k (b / 10 ^ j) ++ padded j (b % 10 ^ j) := by
    rw [← padded_append hk hj _ hlow, Nat.div_add_mod']
  calc compare (padded k a ++ rest) (padded (k + j) b ++ rest')
      = (compare a (b / 10 ^ j)).then .lt := by
        rw [hdigits, List.append_assoc, compare_padded_append hk ha hhigh, hrest.compare_padded]
    _ = compare (a * 10 ^ j + 0) (b / 10 ^ j * 10 ^ j + b % 10 ^ j) := by
        rw [compare_mul_add hbase hlow, hmore]
    _ = compare (a * 10 ^ j) b := by rw [Nat.add_zero, Nat.div_add_mod']

section

variable {m n : Nat} (hm : m < 1000000000) (hn : n < 1000000000) {rest : List Char}

include hm hn

theorem compare_fractionText_of_length_lt (hrest : SortsFirst rest)
    (h : (fractionText m).length < (fractionText n).length) :
    compare (fractionText m ++ rest) (fractionText n ++ rest) = compare m n := by
  rcases fractionText_cases hn with ⟨-, hn'⟩ | ⟨l, b, hb⟩
  · rw [hn'] at h
    exact absurd h (Nat.not_lt_zero _)
  rcases fractionText_cases hm with ⟨rfl, hm'⟩ | ⟨k, a, ha⟩
  · rw [hm', hb.text, compare_lt_iff_lt.mpr hb.nanos_pos]
    exact hrest.compare_cons le_rfl _
  · rw [ha.text, hb.text, List.length_cons, List.length_cons, length_padded ha.pos ha.lt,
      length_padded hb.pos hb.lt] at h
    obtain ⟨j, rfl⟩ : ∃ j, l = k + j := ⟨l - k, by omega⟩
    have hthree : 3 ≤ j := by
      have hk := ha.grouped
      have hl := hb.grouped
      omega
    have hfull : ¬10 ^ j ∣ b := fun hdvd => hb.full ((Nat.pow_dvd_pow 10 hthree).trans hdvd)
    have hpower : 10 ^ (9 - k) = 10 ^ j * 10 ^ (9 - (k + j)) := by
      have hle := hb.le
      rw [← Nat.pow_add]
      congr 1
      omega
    rw [ha.text, hb.text, List.cons_append, List.cons_append, compare_cons_self,
      compare_shorter ha.pos (by omega) ha.lt hb.lt hfull hrest, ha.value, hb.value, hpower,
      ← Nat.mul_assoc, compare_mul_right (by positivity)]

theorem compare_fractionText_of_length_eq
    (h : (fractionText m).length = (fractionText n).length) :
    compare (fractionText m ++ rest) (fractionText n ++ rest) = compare m n := by
  rcases fractionText_cases hm with ⟨rfl, hm'⟩ | ⟨k, a, ha⟩
  · rcases fractionText_cases hn with ⟨rfl, -⟩ | ⟨l, b, hb⟩
    · exact Std.ReflCmp.compare_self
    · rw [hm', hb.text] at h
      cases h
  · rcases fractionText_cases hn with ⟨-, hn'⟩ | ⟨l, b, hb⟩
    · rw [hn', ha.text] at h
      cases h
    · rw [ha.text, hb.text, List.length_cons, List.length_cons, length_padded ha.pos ha.lt,
        length_padded hb.pos hb.lt] at h
      obtain rfl := Nat.succ.inj h
      have hrest : compare rest rest = .eq := Std.ReflCmp.compare_self
      rw [ha.text, hb.text, List.cons_append, List.cons_append, compare_cons_self,
        compare_padded_append ha.pos ha.lt hb.lt, hrest, Ordering.then_eq, ha.value, hb.value,
        compare_mul_right (by positivity)]

/-- Fractions are ordered like the nanoseconds that they stand for, whatever their lengths. -/
theorem compare_fractionText (hrest : SortsFirst rest) :
    compare (fractionText m ++ rest) (fractionText n ++ rest) = compare m n := by
  rcases lt_trichotomy (fractionText m).length (fractionText n).length with h | h | h
  · exact compare_fractionText_of_length_lt hm hn hrest h
  · exact compare_fractionText_of_length_eq hm hn h
  · have hswap := compare_fractionText_of_length_lt hn hm hrest h
    rw [Std.OrientedOrd.eq_swap, hswap, ← Std.OrientedOrd.eq_swap]

end

/-! ## Dates and times -/

/-- A year that is written without a sign. -/
def Date.Unsigned (d : Date) : Prop := 0 ≤ d.year ∧ d.year ≤ 9999

instance (d : Date) : Decidable d.Unsigned := inferInstanceAs (Decidable (_ ∧ _))

theorem compare_yearText {y y' : Int} (hy : 0 ≤ y ∧ y ≤ 9999) (hy' : 0 ≤ y' ∧ y' ≤ 9999)
    (rest rest' : List Char) : compare (yearText y ++ rest) (yearText y' ++ rest') =
      (compare y y').then (compare rest rest') := by
  have hlt : y.toNat < 10 ^ 4 := by omega
  have hlt' : y'.toNat < 10 ^ 4 := by omega
  have hcompare : compare y.toNat y'.toNat = compare y y' :=
    compare_eq_compare (by omega) (by omega) (by omega)
  rw [Calendar.yearText_of_plain hy, Calendar.yearText_of_plain hy',
    compare_padded_append (by decide) hlt hlt', hcompare]

/-- Written dates are compared by the day before what follows them. -/
theorem Date.compare_chars {d e : Date} (hd : d.Unsigned) (he : e.Unsigned)
    (rest rest' : List Char) : compare (d.chars ++ rest) (e.chars ++ rest') =
      (compare d.dayNumber e.dayNumber).then (compare rest rest') := by
  obtain ⟨-, -, -, hmonth, -, hday⟩ := d.valid
  obtain ⟨-, -, -, hmonth', -, hday'⟩ := e.valid
  have hlast := (daysInMonth_bounds d.year d.month).2
  have hlast' := (daysInMonth_bounds e.year e.month).2
  rw [d.chars_append, e.chars_append, compare_yearText hd he, compare_cons_self,
    compare_padded_append (by decide) (by omega) (by omega), compare_cons_self,
    compare_padded_append (by decide) (by omega) (by omega), compare_dayNumber]
  simp only [Ordering.then_assoc]

/-- Written times are ordered by the second of the day and then by the nanoseconds, whatever is
written after both of them in the end. -/
theorem Time.compare_chars (t u : Time) {rest : List Char} (hrest : SortsFirst rest) :
    compare (t.chars ++ rest) (u.chars ++ rest) =
      (compare t.secondOfDay u.secondOfDay).then (compare t.nanos u.nanos) := by
  obtain ⟨hhour, hminute, hsecond, -, -⟩ := t.valid
  obtain ⟨hhour', hminute', hsecond', -, -⟩ := u.valid
  have hshown : ∀ t : Time, t.shownSecond < 10 ^ 2 := by
    intro t
    have hsecond := t.valid.2.2.1
    rcases t.shown_cases with ⟨-, heq, -⟩ | ⟨-, heq, -⟩ <;> omega
  rw [t.chars_append, u.chars_append, compare_padded_append (by decide) (by omega) (by omega),
    compare_cons_self, compare_padded_append (by decide) (by omega) (by omega), compare_cons_self,
    compare_padded_append (by decide) (hshown t) (hshown u),
    compare_fractionText t.shownNanos_lt u.shownNanos_lt hrest, t.compare_shown u,
    compare_secondOfDay]
  simp only [Ordering.then_assoc]

/-- Written timestamps are ordered by time, whatever separates the date from the time. -/
theorem Timestamp.compare_chars {t u : Timestamp} (ht : t.date.Unsigned) (hu : u.date.Unsigned)
    (separator : Char) {rest : List Char} (hrest : SortsFirst rest) :
    compare (t.date.chars ++ separator :: (t.time.chars ++ rest))
        (u.date.chars ++ separator :: (u.time.chars ++ rest)) = compare t.moment u.moment := by
  rw [Date.compare_chars ht hu, compare_cons_self, Time.compare_chars _ _ hrest, compare_moment]

/-! ## Bound dates -/

namespace ValueType.Dated

variable {t : ValueType} {v w : t.Value} {start start' : Timestamp}

/-- The texts of two values of one type of dates are ordered by time. -/
theorem compare_chars (h : t.Dated v start) (h' : t.Dated w start') (hplain : start.date.Unsigned)
    (hplain' : start'.date.Unsigned) :
    compare (start.date.chars ++ t.afterDate v) (start'.date.chars ++ t.afterDate w) =
      compare start.moment start'.moment := by
  cases h with
  | date =>
    cases h'
    rw [Date.compare_chars hplain hplain', Timestamp.compare_moment]
    rfl
  | timestamp =>
    cases h'
    have hend : SortsFirst [] := by simp [SortsFirst]
    have hcompare := Timestamp.compare_chars hplain hplain' ' ' hend
    rw [List.append_nil, List.append_nil] at hcompare
    exact hcompare
  | instant =>
    cases h'
    have hoffset : SortsFirst Calendar.zeroOffset := by
      simp [SortsFirst, Calendar.zeroOffset]
    exact Timestamp.compare_chars hplain hplain' 'T' hoffset

/-- The bytes that are bound for two values of one type of dates are ordered by time. -/
theorem compare_bytes (h : t.Dated v start) (h' : t.Dated w start') (hplain : start.date.Unsigned)
    (hplain' : start'.date.Unsigned) :
    Bytes.compare (Utf8.encode (String.ofList (start.date.chars ++ t.afterDate v)))
        (Utf8.encode (String.ofList (start'.date.chars ++ t.afterDate w))) =
      compare start.moment start'.moment := by
  have hascii := Utf8.isAscii_append.mpr ⟨start.date.isAscii_chars, h.isAscii_afterDate⟩
  have hascii' := Utf8.isAscii_append.mpr ⟨start'.date.isAscii_chars, h'.isAscii_afterDate⟩
  rw [Bytes.compare_encode hascii hascii', h.compare_chars h' hplain hplain']

end ValueType.Dated

end TypedQuery
