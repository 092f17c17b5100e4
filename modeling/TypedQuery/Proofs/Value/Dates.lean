import TypedQuery.Proofs.Calendar.ReadBack
import TypedQuery.Proofs.Engine.Affinity

/-!
# Dates in the database

Dates and timestamps are bound as ASCII texts. None of them spells a number, because a hyphen
follows the digits of the year, and so a column of whatever affinity stores them as they are
(`ValueType.Dated.store_taken`). What is read is therefore what was bound, and the rest is up to the
calendar: dates and timestamps without an offset come back, and timestamps in universal time come
back if their years are written without a sign (`Cell.read_instant_bind`).
-/

set_option autoImplicit false

namespace TypedQuery

open Text (isDigit)
open Number (digitsValue splitSign spanDigits unsignedDecimal?)
open Sql (NoDigitFirst noDigitFirst_cons)
open Utf8 (IsAscii isAscii_nil isAscii_cons isAscii_append)

/-! ## ASCII texts -/

theorem isAscii_padded (width n : Nat) : IsAscii (padded width n) := by
  intro c hc
  have hdigit : isDigit c = true := isDigit_of_mem_padded hc
  simp only [isDigit, Bool.and_eq_true, decide_eq_true_eq] at hdigit
  exact (show c.toNat ≤ 57 from hdigit.2).trans (by decide)

theorem isAscii_yearText (y : Int) : IsAscii (yearText y) := by
  unfold yearText
  split
  · exact isAscii_padded 4 _
  · refine isAscii_cons.mpr ⟨?_, isAscii_padded 4 _⟩
    split <;> decide

theorem isAscii_fractionText (n : Nat) : IsAscii (fractionText n) := by
  unfold fractionText
  split
  · exact isAscii_nil
  · repeat' split
    all_goals exact isAscii_cons.mpr ⟨by decide, isAscii_padded _ _⟩

theorem isAscii_zeroOffset : IsAscii Calendar.zeroOffset := by
  simp [Calendar.zeroOffset, isAscii_cons, isAscii_nil]

theorem Date.isAscii_chars (d : Date) : IsAscii d.chars := by
  simp [chars, isAscii_append, isAscii_cons, isAscii_padded, isAscii_yearText]

theorem Time.isAscii_chars (t : Time) : IsAscii t.chars := by
  simp [chars, isAscii_append, isAscii_cons, isAscii_padded, isAscii_fractionText]

/-! ## Texts that spell no number -/

namespace Engine

/-- Every character of an ASCII text is found in one of its bytes. -/
theorem byteChars_encode {cs : List Char} (h : IsAscii cs) :
    byteChars (Utf8.encode (String.ofList cs)) = cs := by
  rw [Utf8.encode_of_isAscii h, byteChars, List.map_map]
  refine (List.map_congr_left ?_).trans (List.map_id cs)
  intro c hc
  have hsmall := h c hc
  rw [Function.comp_apply, Utf8.toNat_ofNat_of_lt (by omega), Char.ofNat_toNat]
  rfl

/-- Digits are a number in front of a hyphen, too. -/
theorem unsignedDecimal?_digits {ds : List Char} (hne : ds ≠ [])
    (hds : ∀ c ∈ ds, isDigit c = true) (rest : List Char) :
    unsignedDecimal? (ds ++ '-' :: rest) = some (digitsValue ds, 0, '-' :: rest) := by
  have hhyphen : NoDigitFirst ('-' :: rest) := noDigitFirst_cons (by decide)
  have hspan : spanDigits (ds ++ '-' :: rest) = (ds, '-' :: rest) := by
    rw [spanDigits, List.span_eq_takeWhile_dropWhile, Sql.takeWhile_append_of_run hds hhyphen,
      Sql.dropWhile_append_of_run hds hhyphen]
  have hsome : ds.isEmpty = false := by simpa using hne
  unfold unsignedDecimal?
  rw [hspan]
  simp [hsome]

theorem splitSign_of_isDigit {d : Char} (hd : isDigit d = true) (cs : List Char) :
    splitSign (d :: cs) = (false, d :: cs) := by
  unfold splitSign
  split
  · rename_i heq
    rw [(List.cons.inj heq).1] at hd
    cases hd
  · rename_i heq
    rw [(List.cons.inj heq).1] at hd
    cases hd
  · rfl

theorem isNumberBlank_of_isDigit {d : Char} (hd : isDigit d = true) : isNumberBlank d = false := by
  by_contra hblank
  simp only [isNumberBlank, Bool.or_eq_true, beq_iff_eq, Bool.not_eq_false] at hblank
  rcases hblank with ((((rfl | rfl) | rfl) | rfl) | rfl) | rfl <;> cases hd

/-- A year has the digits of a number, and a sign or none in front of them. -/
theorem exists_splitSign_yearText (y : Int) (rest : List Char) :
    ∃ negative n, splitSign ((yearText y ++ rest).dropWhile isNumberBlank) =
      (negative, padded 4 n ++ rest) := by
  unfold yearText
  split
  · obtain ⟨d, ds, hd, hpadded⟩ := padded_eq_cons 4 y.toNat
    refine ⟨false, y.toNat, ?_⟩
    have hblank : ¬isNumberBlank d = true := by simp [isNumberBlank_of_isDigit hd]
    rw [hpadded, List.cons_append, List.dropWhile_cons_of_neg hblank]
    exact splitSign_of_isDigit hd _
  · split
    · exact ⟨true, y.natAbs, rfl⟩
    · exact ⟨false, y.natAbs, rfl⟩

/-- A text that begins with a year and a hyphen spells no number. -/
theorem numeral?_year {y : Int} {rest : List Char} (hrest : IsAscii rest) :
    numeral? (Utf8.encode (String.ofList (yearText y ++ '-' :: rest))) = none := by
  have hascii : IsAscii (yearText y ++ '-' :: rest) :=
    isAscii_append.mpr ⟨isAscii_yearText y, isAscii_cons.mpr ⟨by decide, hrest⟩⟩
  obtain ⟨negative, n, hsign⟩ := exists_splitSign_yearText y ('-' :: rest)
  have hdecimal := unsignedDecimal?_digits (padded_ne_nil 4 n) (fun c => isDigit_of_mem_padded) rest
  have hhyphen : isNumberBlank '-' = false := by decide
  unfold numeral? leadingNumber?
  rw [byteChars_encode hascii]
  simp [hsign, hdecimal, hhyphen]

end Engine

/-! ## Bound dates -/

namespace ValueType

/-- A value of a type of dates and the time at which it begins. -/
inductive Dated : (t : ValueType) → t.Value → Timestamp → Prop
  | date (d : Date) : Dated .date d ⟨d, .midnight⟩
  | timestamp (s : Timestamp) : Dated .timestamp s s
  | instant (s : Timestamp) : Dated .instant s s

/-- What is written for a value of a type of dates after the date. -/
def afterDate : (t : ValueType) → t.Value → List Char
  | .timestamp, s => ' ' :: Time.chars (Timestamp.time s)
  | .instant, s => 'T' :: (Time.chars (Timestamp.time s) ++ Calendar.zeroOffset)
  | _, _ => []

namespace Dated

variable {t : ValueType} {v : t.Value} {start : Timestamp}

/-- What is bound is a text that begins with the date. -/
theorem toCell_bind (h : t.Dated v start) : (t.bind v).toCell =
    .text (Utf8.encode (String.ofList (start.date.chars ++ t.afterDate v))) := by
  have hcell : ∀ {cs ds : List Char}, cs = ds → Cell.text (Utf8.encode (String.ofList cs)) =
      .text (Utf8.encode (String.ofList ds)) := by
    rintro cs ds rfl
    rfl
  cases h with
  | date => exact hcell (List.append_nil _).symm
  | timestamp => exact hcell rfl
  | instant => exact hcell (List.append_assoc _ _ _)

theorem isAscii_afterDate (h : t.Dated v start) : IsAscii (t.afterDate v) := by
  cases h with
  | date => exact isAscii_nil
  | timestamp => exact isAscii_cons.mpr ⟨by decide, start.time.isAscii_chars⟩
  | instant =>
    exact isAscii_cons.mpr
      ⟨by decide, isAscii_append.mpr ⟨start.time.isAscii_chars, isAscii_zeroOffset⟩⟩

/-- No type of dates is bound as a text that spells a number. -/
theorem numeral?_eq_none (h : t.Dated v start) : Engine.numeral?
    (Utf8.encode (String.ofList (start.date.chars ++ t.afterDate v))) = none := by
  rw [start.date.chars_append]
  apply Engine.numeral?_year
  simp [isAscii_append, isAscii_cons, isAscii_padded, h.isAscii_afterDate]

/-- The engine takes and stores what is bound as it is, in a column of whatever affinity. -/
theorem store_taken (h : t.Dated v start) (a : Engine.Affinity) :
    a.store (Engine.taken (t.bind v).toCell) = (t.bind v).toCell := by
  rw [h.toCell_bind]
  exact a.store_text h.numeral?_eq_none

end Dated

end ValueType

/-- What a calendar reader finds in a text that was written for it. -/
theorem Cell.toCalendar_text {α : Type} {reader : String → Except Calendar.Fault α} {text : String}
    {result : Except Calendar.Fault α} (h : reader text = result) :
    (Cell.text (Utf8.encode text)).toCalendar reader = result.mapError (.date text) := by
  have htext : (Cell.text (Utf8.encode text)).toText = .ok text := by
    change (Utf8.decode (Utf8.encode text)).mapError Cell.Fault.encoding = _
    rw [Utf8.decode_encode]
    rfl
  rw [toCalendar, htext, ← h]
  rfl

theorem Cell.read_date_bind (column : Nat) (d : Date) :
    (ValueType.date.bind d).toCell.read column .date = .ok d :=
  congrArg (Except.mapError (ReadFault.cell column)) (toCalendar_text (Calendar.readDate_text d))

theorem Cell.read_timestamp_bind (column : Nat) (t : Timestamp) :
    (ValueType.timestamp.bind t).toCell.read column .timestamp = .ok t :=
  congrArg (Except.mapError (ReadFault.cell column))
    (toCalendar_text (Calendar.readTimestamp_text t))

theorem Cell.read_instant_bind (column : Nat) (t : Timestamp) :
    (ValueType.instant.bind t).toCell.read column .instant =
      if 0 ≤ t.date.year ∧ t.date.year ≤ 9999 then .ok t
      else .error (.cell column (.date t.utcText .invalid)) := by
  have hread : (ValueType.instant.bind t).toCell.read column .instant = _ :=
    congrArg (Except.mapError (ReadFault.cell column))
      (toCalendar_text (Calendar.readInstant_utcText t))
  rw [hread]
  split <;> rfl

/-- Dates and timestamps survive the database, whatever the affinity of their column: they are
stored as they were bound and read at their type as they were, also where they may be missing. -/
theorem Cell.read_dates (a : Engine.Affinity) (column : Nat) :
    (∀ d : Date,
      let cell := (ValueType.date.bind d).toCell
      a.store (Engine.taken cell) = cell ∧ cell.read column .date = .ok d ∧
        cell.read column (.optional .date) = .ok (some d)) ∧
    ∀ t : Timestamp,
      let cell := (ValueType.timestamp.bind t).toCell
      a.store (Engine.taken cell) = cell ∧ cell.read column .timestamp = .ok t ∧
        cell.read column (.optional .timestamp) = .ok (some t) := by
  refine ⟨?dates, ?timestamps⟩
  case dates =>
    intro d cell
    have hread : cell.read column .date = .ok d := read_date_bind column d
    refine ⟨(ValueType.Dated.date d).store_taken a, hread, ?_⟩
    rw [Cell.read_optional (c := cell) nofun, hread]
    rfl
  case timestamps =>
    intro t cell
    have hread : cell.read column .timestamp = .ok t := read_timestamp_bind column t
    refine ⟨(ValueType.Dated.timestamp t).store_taken a, hread, ?_⟩
    rw [Cell.read_optional (c := cell) nofun, hread]
    rfl

/-- Timestamps in universal time are stored as they were bound, in a column of whatever affinity,
and read as they were if their years are written without a sign. The text of every other one is
refused. -/
theorem Cell.read_instants (a : Engine.Affinity) (column : Nat) (t : Timestamp) :
    let cell := (ValueType.instant.bind t).toCell
    a.store (Engine.taken cell) = cell ∧
      (cell.read column .instant =
        if 0 ≤ t.date.year ∧ t.date.year ≤ 9999 then .ok t
        else .error (.cell column (.date t.utcText .invalid))) ∧
      cell.read column (.optional .instant) = (cell.read column .instant).map some := by
  intro cell
  exact ⟨(ValueType.Dated.instant t).store_taken a, read_instant_bind column t,
    Cell.read_optional (c := cell) nofun⟩

/-- The first second of the year 10000 is written with a sign. It comes back as a timestamp
without an offset, but its text in universal time is refused. -/
theorem Cell.refused_instant_of_year_10000 :
    let t : Timestamp := ⟨⟨10000, 1, 1, by decide⟩, .midnight⟩
    (ValueType.timestamp.bind t).toCell.read 0 .timestamp = .ok t ∧
      t.utcText = "+10000-01-01T00:00:00+00:00" ∧
      (ValueType.instant.bind t).toCell.read 0 .instant =
        .error (.cell 0 (.date t.utcText .invalid)) ∧
      ¬∀ s : Timestamp, (ValueType.instant.bind s).toCell.read 0 .instant = .ok s := by
  intro t
  have hrefused : (ValueType.instant.bind t).toCell.read 0 .instant =
      .error (.cell 0 (.date t.utcText .invalid)) :=
    (read_instant_bind 0 t).trans (if_neg (by decide))
  refine ⟨read_timestamp_bind 0 t, by decide, hrefused, ?_⟩
  intro hall
  rw [hall t] at hrefused
  cases hrefused

end TypedQuery
