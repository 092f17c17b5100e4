import TypedQuery.Proofs.Calendar.Padded
import TypedQuery.Proofs.Outcome
import Mathlib.Data.List.TakeDrop

/-!
# Reading written dates

The parts of a written date or timestamp are read back one after the other, and each part ends where
its text does, because what follows it is no digit. A year is read with its sign, whatever its
length; a fraction is read in full, whichever of its lengths it has; second 60 is read as the leap
second that it was written for. So `readDate` and `readTimestamp` undo the writing of every date and
timestamp.

`readInstant` takes the year from the first four characters. It undoes the writing of the timestamps
whose years are written without a sign, and refuses the text of every other one at the sign
(`readInstant_utcText`).
-/

set_option autoImplicit false

namespace TypedQuery

open Text (isDigit isWhiteSpace trimStart)
open Number (digitsValue tenTo)
open Sql (NoDigitFirst noDigitFirst_nil noDigitFirst_cons)

/-! ## Texts -/

namespace Text

theorem isWhiteSpace_of_isDigit {c : Char} (h : isDigit c = true) : isWhiteSpace c = false := by
  have hrange : 48 ≤ c.toNat ∧ c.toNat ≤ 57 := by
    simpa [isDigit, Char.le_def, UInt32.le_iff_toNat_le] using h
  have hall : ∀ n ≤ 57, 48 ≤ n → whiteSpaceRanges.contains n = false := by decide
  exact hall c.toNat hrange.2 hrange.1

/-- What begins with a digit has no white space in front. -/
theorem trimStart_append {ds : List Char} (hne : ds ≠ []) (hds : ∀ c ∈ ds, isDigit c = true)
    (rest : List Char) : trimStart (ds ++ rest) = ds ++ rest := by
  cases ds with
  | nil => exact absurd rfl hne
  | cons c ds =>
    have hc := isWhiteSpace_of_isDigit (hds c List.mem_cons_self)
    rw [trimStart, List.cons_append, List.dropWhile_cons_of_neg (by simp [hc])]

/-- A text has at least one byte for every character. -/
theorem length_le_utf8ByteSize (cs : List Char) : cs.length ≤ (String.ofList cs).utf8ByteSize := by
  induction cs with
  | nil => exact Nat.zero_le _
  | cons c cs ih =>
    have hsplit : String.ofList (c :: cs) = String.singleton c ++ String.ofList cs := by
      rw [← String.toList_inj]
      simp
    have hc := c.utf8Size_pos
    rw [hsplit, String.utf8ByteSize_append, String.utf8ByteSize_singleton, List.length_cons]
    omega

end Text

namespace Calendar

/-! ## Parts -/

/-- The digits in front are taken if they are not too many and none follows. -/
theorem takeDigits_append {width : Option Nat} {ds rest : List Char}
    (hds : ∀ c ∈ ds, isDigit c = true) (hwidth : ∀ w ∈ width, ds.length ≤ w)
    (hrest : NoDigitFirst rest) : takeDigits width (ds ++ rest) = (ds, rest) := by
  cases width with
  | none =>
    rw [takeDigits, List.span_eq_takeWhile_dropWhile, Sql.takeWhile_append_of_run hds hrest,
      Sql.dropWhile_append_of_run hds hrest]
  | some w =>
    have hlength := hwidth w rfl
    have hcut : NoDigitFirst (rest.take (w - ds.length)) := by
      intro c hc
      apply hrest c
      cases rest with
      | nil => simp at hc
      | cons d rest =>
        cases hroom : w - ds.length with
        | zero => simp [hroom] at hc
        | succ room => simpa [hroom] using hc
    have htaken : ((ds ++ rest).take w).takeWhile isDigit = ds := by
      rw [List.take_append, List.take_of_length_le hlength, Sql.takeWhile_append_of_run hds hcut]
    rw [takeDigits, htaken, List.drop_left]

/-- A padded number is read if its digits are not too many and none follows. -/
theorem number_padded {width : Option Nat} {k n : Nat} {rest : List Char}
    (hwidth : ∀ w ∈ width, (padded k n).length ≤ w) (hrest : NoDigitFirst rest) :
    number width (padded k n ++ rest) = .ok (n, rest) := by
  rw [number, takeDigits_append (fun c => isDigit_of_mem_padded) hwidth hrest]
  simp [padded_ne_nil, digitsValue_padded]

theorem literal_cons (c : Char) (rest : List Char) : literal c (c :: rest) = .ok ((), rest) := by
  simp [literal]

/-- A number of two digits is read within its bounds. -/
theorem field_padded {low high n : Nat} {rest : List Char} (hlow : low ≤ n) (hhigh : n ≤ high)
    (hn : n < 100) (hrest : NoDigitFirst rest) :
    field low high (padded 2 n ++ rest) = .ok (n, rest) := by
  have hlength : (padded 2 n).length ≤ 2 := (length_padded (by decide) (by simpa using hn)).le
  have hnumber : number (some 2) (padded 2 n ++ rest) = .ok (n, rest) :=
    number_padded (by simpa using hlength) hrest
  have htrim : trimStart (padded 2 n ++ rest) = padded 2 n ++ rest :=
    Text.trimStart_append (padded_ne_nil 2 n) (fun c => isDigit_of_mem_padded) rest
  unfold field
  rw [htrim]
  refine bind_eq_ok.mpr ⟨(n, rest), hnumber, ?_⟩
  simp [pure, Except.pure, hlow, hhigh]

/-- A padded number begins with no sign. -/
theorem padded_append_ne_cons {k n : Nat} {c : Char} (hc : isDigit c = false)
    (rest after : List Char) : padded k n ++ rest ≠ c :: after := by
  intro heq
  obtain ⟨d, ds, hd, hpadded⟩ := padded_eq_cons k n
  rw [hpadded, List.cons_append, List.cons.injEq] at heq
  rw [heq.1, hc] at hd
  cases hd

theorem yearText_of_plain {y : Int} (h : 0 ≤ y ∧ y ≤ 9999) : yearText y = padded 4 y.toNat :=
  if_pos (by simpa using h)

theorem yearText_of_signed {y : Int} (h : ¬(0 ≤ y ∧ y ≤ 9999)) :
    yearText y = (if y < 0 then '-' else '+') :: padded 4 y.natAbs :=
  if_neg (by simpa using h)

/-- A year is read with its sign, if it has one. -/
theorem year_yearText {y : Int} (hlow : -2147483648 ≤ y) (hhigh : y ≤ 2147483647)
    {rest : List Char} (hrest : NoDigitFirst rest) :
    year (yearText y ++ rest) = .ok (y, rest) := by
  have hrange : ∀ n : Int, n = y → (if (decide (-2147483648 ≤ n) && decide (n ≤ 2147483647)) = true
      then (pure (n, rest) : Except Fault _) else throw Fault.outOfRange) = .ok (y, rest) := by
    rintro n rfl
    simp [pure, Except.pure, hlow, hhigh]
  by_cases hplain : 0 ≤ y ∧ y ≤ 9999
  · have hlength : (padded 4 y.toNat).length ≤ 4 := (length_padded (by decide) (by omega)).le
    have hnumber : number (some 4) (padded 4 y.toNat ++ rest) = .ok (y.toNat, rest) :=
      number_padded (by simpa using hlength) hrest
    unfold year
    rw [yearText_of_plain hplain,
      Text.trimStart_append (padded_ne_nil _ _) (fun c => isDigit_of_mem_padded)]
    dsimp only
    split
    · rename_i heq
      exact absurd heq (padded_append_ne_cons (by decide) _ _)
    · rename_i heq
      exact absurd heq (padded_append_ne_cons (by decide) _ _)
    · exact bind_eq_ok.mpr ⟨_, hnumber, hrange _ (by omega)⟩
  · have hnumber : number none (padded 4 y.natAbs ++ rest) = .ok (y.natAbs, rest) :=
      number_padded (by simp) hrest
    rw [yearText_of_signed hplain]
    by_cases hnegative : y < 0
    · rw [if_pos hnegative]
      exact bind_eq_ok.mpr ⟨_, hnumber, hrange _ (by omega)⟩
    · rw [if_neg hnegative]
      exact bind_eq_ok.mpr ⟨_, hnumber, hrange _ (by omega)⟩

theorem noDigitFirst_fractionText (n : Nat) : NoDigitFirst (fractionText n) := by
  unfold fractionText
  split
  · exact noDigitFirst_nil
  · repeat' split
    all_goals exact noDigitFirst_cons (by decide)

/-- A text after which a time may end: it goes on neither its seconds nor their fraction. -/
def EndsTime (rest : List Char) : Prop := ∀ c ∈ rest.head?, isDigit c = false ∧ c ≠ '.'

theorem EndsTime.noDigitFirst {rest : List Char} (h : EndsTime rest) : NoDigitFirst rest :=
  fun c hc => (h c hc).1

/-- The digits of a fraction are read as the nanoseconds that they stand for. -/
theorem fraction_padded {k n : Nat} (hk : 0 < k) (hwidth : k ≤ 9) (hn : n < 10 ^ k)
    {rest : List Char} (hrest : NoDigitFirst rest) :
    fraction ('.' :: padded k n ++ rest) = .ok (n * 10 ^ (9 - k), rest) := by
  have hlength := length_padded hk hn
  have htaken : takeDigits (some 9) (padded k n ++ rest) = (padded k n, rest) :=
    takeDigits_append (fun c => isDigit_of_mem_padded) (by simpa [hlength] using hwidth) hrest
  have hdropped : rest.dropWhile isDigit = rest := by
    have hrun := Sql.dropWhile_append_of_run (v := []) (by simp) hrest
    rwa [List.nil_append] at hrun
  have hnonempty : (padded k n).isEmpty = false := by simp [padded_ne_nil]
  change nanoseconds (padded k n ++ rest) = _
  unfold nanoseconds
  simp only [htaken, hnonempty, digitsValue_padded, hlength, hdropped]
  rfl

/-- A fraction is read in full, whichever of its lengths it has. -/
theorem fraction_fractionText {n : Nat} (hn : n < 1000000000) {rest : List Char}
    (hrest : EndsTime rest) : fraction (fractionText n ++ rest) = .ok (n, rest) := by
  rcases fractionText_cases hn with ⟨rfl, htext⟩ | ⟨k, a, h⟩
  · rw [htext, List.nil_append]
    cases rest with
    | nil => rfl
    | cons c rest =>
      have hc : c ≠ '.' := (hrest c rfl).2
      simp [fraction, hc]
  · rw [h.text, fraction_padded h.pos h.le h.lt hrest.noDigitFirst, ← h.value]

/-! ## Dates and times -/

/-- Year, month and day are read from the text of a date. -/
theorem dateParts_chars (d : Date) {rest : List Char} (hrest : NoDigitFirst rest) :
    dateParts (d.chars ++ rest) = .ok ((d.year, d.month, d.day), rest) := by
  obtain ⟨hlow, hhigh, hmonth, hmonth', hday, hday'⟩ := d.valid
  have hlast : d.day ≤ 31 := hday'.trans (daysInMonth_bounds _ _).2
  have hhyphen : ∀ cs, NoDigitFirst ('-' :: cs) := fun cs => noDigitFirst_cons (by decide)
  rw [d.chars_append]
  refine bind_eq_ok.mpr ⟨_, year_yearText (by omega) (by omega) (hhyphen _), ?_⟩
  refine bind_eq_ok.mpr ⟨_, literal_cons '-' _, ?_⟩
  refine bind_eq_ok.mpr ⟨_, field_padded hmonth hmonth' (by omega) (hhyphen _), ?_⟩
  refine bind_eq_ok.mpr ⟨_, literal_cons '-' _, ?_⟩
  exact bind_eq_ok.mpr ⟨_, field_padded hday hlast (by omega) hrest, rfl⟩

/-- Hour, minute, second and nanoseconds are read from the text of a time. -/
theorem timeParts_chars (t : Time) {rest : List Char} (hrest : EndsTime rest) :
    timeParts (t.chars ++ rest) =
      .ok ((t.hour, t.minute, t.shownSecond, t.shownNanos), rest) := by
  obtain ⟨hhour, hminute, hsecond, -, -⟩ := t.valid
  have hshown : t.shownSecond ≤ 60 := by
    rcases t.shown_cases with ⟨-, heq, -⟩ | ⟨-, heq, -⟩ <;> omega
  have hcolon : ∀ cs, NoDigitFirst (':' :: cs) := fun cs => noDigitFirst_cons (by decide)
  have hfraction : NoDigitFirst (fractionText t.shownNanos ++ rest) :=
    (noDigitFirst_fractionText _).append hrest.noDigitFirst
  rw [t.chars_append]
  refine bind_eq_ok.mpr ⟨_, field_padded (Nat.zero_le _) (by omega) (by omega) (hcolon _), ?_⟩
  refine bind_eq_ok.mpr ⟨_, literal_cons ':' _, ?_⟩
  refine bind_eq_ok.mpr ⟨_, field_padded (Nat.zero_le _) (by omega) (by omega) (hcolon _), ?_⟩
  refine bind_eq_ok.mpr ⟨_, literal_cons ':' _, ?_⟩
  refine bind_eq_ok.mpr ⟨_, field_padded (Nat.zero_le _) hshown (by omega) hfraction, ?_⟩
  exact bind_eq_ok.mpr ⟨_, fraction_fractionText t.shownNanos_lt hrest, rfl⟩

/-- The parts of a date are those of an existing day. -/
theorem dateOf_parts (d : Date) : dateOf d.year d.month d.day = .ok d := by
  rw [dateOf, Date.ofParts?, dif_pos d.valid]

/-- The parts of a time as they are written are those of the time. -/
theorem timeOf_parts (t : Time) :
    timeOf t.hour t.minute t.shownSecond t.shownNanos = .ok t := by
  obtain ⟨hhour, hminute, hsecond, hnanos, hleap⟩ := t.valid
  unfold timeOf
  rcases t.shown_cases with ⟨-, hshown, heq⟩ | ⟨hlast, hshown, heq⟩
  · have hplain : (t.shownSecond == 60) = false := by
      rw [hshown, beq_eq_false_iff_ne]
      omega
    rw [hplain, hshown, heq]
    simp [Time.ofParts?, t.valid]
  · rw [hshown, ← heq]
    simp only [BEq.rfl, if_true, ← hlast, Time.ofParts?, dif_pos t.valid]

/-! ## Whole texts -/

theorem finish_nil : finish [] = .ok () := rfl

/-- A date is read back from its text. -/
theorem readDate_text (d : Date) : readDate d.text = .ok d := by
  have hparts := dateParts_chars d noDigitFirst_nil
  rw [List.append_nil] at hparts
  unfold readDate Date.text
  rw [String.toList_ofList]
  refine bind_eq_ok.mpr ⟨_, hparts, ?_⟩
  exact bind_eq_ok.mpr ⟨_, finish_nil, dateOf_parts d⟩

/-- A timestamp is read back from its text. -/
theorem readTimestamp_text (t : Timestamp) : readTimestamp t.text = .ok t := by
  have hblank : NoDigitFirst (' ' :: t.time.chars) := noDigitFirst_cons (by decide)
  have hend : EndsTime [] := by simp [EndsTime]
  have hdate := dateParts_chars t.date hblank
  have htime := timeParts_chars t.time hend
  have htrim : trimStart (' ' :: t.time.chars) = t.time.chars := by
    have hspace : isWhiteSpace ' ' = true := by decide
    have hchars := t.time.chars_append []
    rw [List.append_nil] at hchars
    rw [trimStart, List.dropWhile_cons_of_pos hspace, hchars]
    exact Text.trimStart_append (padded_ne_nil _ _) (fun c => isDigit_of_mem_padded) _
  rw [List.append_nil] at htime
  unfold readTimestamp Timestamp.text
  rw [String.toList_ofList]
  refine bind_eq_ok.mpr ⟨_, hdate, ?_⟩
  dsimp only
  rw [htrim]
  refine bind_eq_ok.mpr ⟨_, htime, ?_⟩
  refine bind_eq_ok.mpr ⟨_, finish_nil, ?_⟩
  refine bind_eq_ok.mpr ⟨_, dateOf_parts t.date, ?_⟩
  exact bind_eq_ok.mpr ⟨_, timeOf_parts t.time, rfl⟩

/-! ## Instants -/

/-- A padded number is read at its width. -/
theorem fixedDigits_padded {k n : Nat} (hk : 0 < k) (hn : n < 10 ^ k) (rest : List Char) :
    fixedDigits k (padded k n ++ rest) = .ok (n, rest) := by
  have hlength := length_padded hk hn
  have htake : (padded k n ++ rest).take k = padded k n := List.take_left' hlength
  have hdrop : (padded k n ++ rest).drop k = rest := List.drop_left' hlength
  have hdigits : (padded k n).all isDigit = true :=
    List.all_eq_true.mpr fun c => isDigit_of_mem_padded
  unfold fixedDigits
  rw [htake, hdrop]
  simp [hlength, hdigits, digitsValue_padded]

theorem separator_cons {allowed : Char → Bool} {c : Char} (hc : allowed c = true)
    (rest : List Char) : separator allowed (c :: rest) = .ok ((), rest) := by
  rw [separator, if_pos hc]

/-- What stands for no offset. -/
def zeroOffset : List Char := ['+', '0', '0', ':', '0', '0']

theorem offset_zeroOffset : offset zeroOffset = .ok (0, []) := rfl

/-- Without an offset a timestamp stays as it is. -/
theorem minusMinutes?_zero (t : Timestamp) : t.minusMinutes? 0 = some t := by
  obtain ⟨hhour, hminute, -, -, -⟩ := t.time.valid
  have hday : ¬((t.time.hour : Int) * 60 + t.time.minute - 0 < 0) ∧
      ¬(1440 ≤ (t.time.hour : Int) * 60 + t.time.minute - 0) := by omega
  have hofDay : (((t.time.hour : Int) * 60 + t.time.minute - 0) % 1440).toNat =
      t.time.hour * 60 + t.time.minute := by omega
  have hhour' : (t.time.hour * 60 + t.time.minute) / 60 = t.time.hour := by omega
  have hminute' : (t.time.hour * 60 + t.time.minute) % 60 = t.time.minute := by omega
  unfold Timestamp.minusMinutes?
  simp only [hday, if_false, hofDay, hhour', hminute', Time.ofParts?, dif_pos t.time.valid]
  rfl

/-- The text of a timestamp with its offset is long enough for one. -/
theorem utf8ByteSize_utcText (t : Timestamp) : 19 ≤ t.utcText.utf8ByteSize := by
  have hyear : 4 ≤ (yearText t.date.year).length := by
    have hplain := le_length_padded 4 t.date.year.toNat
    have hsigned := le_length_padded 4 t.date.year.natAbs
    unfold yearText
    split
    · exact hplain
    · exact hsigned.trans (Nat.le_succ _)
  have hparts : ∀ n, 2 ≤ (padded 2 n).length := le_length_padded 2
  have hmonth := hparts t.date.month
  have hday := hparts t.date.day
  have hhour := hparts t.time.hour
  have hminute := hparts t.time.minute
  have hsecond := hparts t.time.shownSecond
  refine le_trans ?_ (Text.length_le_utf8ByteSize _)
  simp only [Date.chars, Time.chars, List.length_append, List.length_cons, List.length_nil]
  omega

/-- A timestamp whose year is written without a sign is read back from its text with an offset. -/
theorem readInstant_of_plain {t : Timestamp} (hlow : 0 ≤ t.date.year) (hhigh : t.date.year ≤ 9999) :
    readInstant t.utcText = .ok t := by
  obtain ⟨-, -, hmonth, hmonth', hday, hday'⟩ := t.date.valid
  obtain ⟨hhour, hminute, hsecond, -, -⟩ := t.time.valid
  have hlast : t.date.day ≤ 31 := hday'.trans (daysInMonth_bounds _ _).2
  have hshown : t.time.shownSecond ≤ 60 := by
    rcases t.time.shown_cases with ⟨-, heq, -⟩ | ⟨-, heq, -⟩ <;> omega
  have hyear : yearText t.date.year = padded 4 t.date.year.toNat :=
    yearText_of_plain ⟨hlow, hhigh⟩
  have htext : t.utcText.toList =
      padded 4 t.date.year.toNat ++ '-' :: (padded 2 t.date.month ++ '-' :: (padded 2 t.date.day ++
        'T' :: (padded 2 t.time.hour ++ ':' :: (padded 2 t.time.minute ++ ':' ::
          (padded 2 t.time.shownSecond ++ (fractionText t.time.shownNanos ++ zeroOffset)))))) := by
    rw [← hyear, ← t.time.chars_append, ← t.date.chars_append, Timestamp.utcText,
      String.toList_ofList]
    simp [zeroOffset]
  have hlong : ¬t.utcText.utf8ByteSize < 19 := Nat.not_lt.mpr (utf8ByteSize_utcText t)
  have hdate : dateOf (t.date.year.toNat : Int) t.date.month t.date.day = .ok t.date := by
    rw [Int.toNat_of_nonneg hlow]
    exact dateOf_parts t.date
  have hfraction : fraction (fractionText t.time.shownNanos ++ zeroOffset) =
      .ok (t.time.shownNanos, zeroOffset) :=
    fraction_fractionText t.time.shownNanos_lt (by simp [EndsTime, zeroOffset]; decide)
  unfold readInstant
  rw [if_neg hlong, htext]
  refine bind_eq_ok.mpr ⟨_, fixedDigits_padded (by decide) (by omega) _, ?_⟩
  refine bind_eq_ok.mpr ⟨_, separator_cons (by decide) _, ?_⟩
  refine bind_eq_ok.mpr ⟨_, fixedDigits_padded (by decide) (by omega) _, ?_⟩
  refine bind_eq_ok.mpr ⟨_, separator_cons (by decide) _, ?_⟩
  refine bind_eq_ok.mpr ⟨_, fixedDigits_padded (by decide) (by omega) _, ?_⟩
  refine bind_eq_ok.mpr ⟨_, hdate, ?_⟩
  refine bind_eq_ok.mpr ⟨_, separator_cons (by decide) _, ?_⟩
  refine bind_eq_ok.mpr ⟨_, fixedDigits_padded (by decide) (by omega) _, ?_⟩
  refine bind_eq_ok.mpr ⟨_, separator_cons (by decide) _, ?_⟩
  refine bind_eq_ok.mpr ⟨_, fixedDigits_padded (by decide) (by omega) _, ?_⟩
  refine bind_eq_ok.mpr ⟨_, separator_cons (by decide) _, ?_⟩
  refine bind_eq_ok.mpr ⟨_, fixedDigits_padded (by decide) (by omega) _, ?_⟩
  refine bind_eq_ok.mpr ⟨_, hfraction, ?_⟩
  refine bind_eq_ok.mpr ⟨_, timeOf_parts t.time, ?_⟩
  refine bind_eq_ok.mpr ⟨_, offset_zeroOffset, ?_⟩
  refine bind_eq_ok.mpr ⟨_, finish_nil, ?_⟩
  simp [minusMinutes?_zero]
  rfl

/-- The text of any other timestamp begins with a sign, and no year is found there. -/
theorem readInstant_of_signed {t : Timestamp} (h : ¬(0 ≤ t.date.year ∧ t.date.year ≤ 9999)) :
    readInstant t.utcText = .error .invalid := by
  obtain ⟨sign, hsign, hyear⟩ : ∃ sign, isDigit sign = false ∧
      yearText t.date.year = sign :: padded 4 t.date.year.natAbs := by
    refine ⟨if t.date.year < 0 then '-' else '+', ?_, yearText_of_signed h⟩
    split <;> decide
  obtain ⟨rest, htext⟩ : ∃ rest, t.utcText.toList = sign :: rest := by
    rw [Timestamp.utcText, String.toList_ofList, List.append_assoc, t.date.chars_append, hyear]
    exact ⟨_, rfl⟩
  have hlong : ¬t.utcText.utf8ByteSize < 19 := Nat.not_lt.mpr (utf8ByteSize_utcText t)
  have hrefused : fixedDigits 4 (sign :: rest) = .error .invalid := by
    simp [fixedDigits, hsign]
  unfold readInstant
  rw [if_neg hlong, htext, hrefused]
  rfl

/-- A timestamp is read back from its text with an offset if its year is written without a sign; the
text of any other one is refused. -/
theorem readInstant_utcText (t : Timestamp) :
    readInstant t.utcText =
      if 0 ≤ t.date.year ∧ t.date.year ≤ 9999 then .ok t else .error .invalid := by
  split
  · rename_i h
    exact readInstant_of_plain h.1 h.2
  · rename_i h
    exact readInstant_of_signed h

end Calendar

end TypedQuery
