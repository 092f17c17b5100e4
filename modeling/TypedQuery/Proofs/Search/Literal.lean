import TypedQuery.Proofs.Outcome
import TypedQuery.Proofs.Search.Token

/-!
# Spellings of values

Numbers, texts and the keywords that stand for values. A number is read as far as there are digits,
and a text as far as quotes are doubled, so each of them is found where it starts a text that does not
go on with more of it (`literal_of_starts`).
-/

set_option autoImplicit false

namespace TypedQuery.Search

open TypedQuery.Text (isDigit)

/-! ## Numbers -/

/-- A text does not go on with a digit. -/
def EndsDigits (rest : List Char) : Prop := ∀ c ∈ rest.head?, isDigit c = false

theorem spanDigits_eq_iff {cs digits rest : List Char} :
    Number.spanDigits cs = (digits, rest) ↔
      cs = digits ++ rest ∧ (∀ d ∈ digits, isDigit d = true) ∧ EndsDigits rest :=
  span_eq_iff

/-- Splitting a minus off a number leaves its digits. -/
theorem splitMinus_minus (negative : Bool) {digits : List Char} (rest : List Char)
    (hne : digits ≠ []) (hdigits : ∀ d ∈ digits, isDigit d = true) :
    splitMinus (minus negative ++ (digits ++ rest)) = (negative, digits ++ rest) := by
  cases negative with
  | true => rfl
  | false =>
    cases digits with
    | nil => exact absurd rfl hne
    | cons d digits =>
      have hd : d ≠ '-' := ne_of_isDigit (hdigits d List.mem_cons_self) (by decide)
      change splitMinus (d :: (digits ++ rest)) = _
      rw [splitMinus]
      · rfl
      · intro after heq
        exact hd (List.cons_eq_cons.mp heq).1

/-- A minus that is split off stands in front. -/
theorem eq_minus_append_of_splitMinus {cs body : List Char} {negative : Bool}
    (h : splitMinus cs = (negative, body)) : cs = minus negative ++ body := by
  unfold splitMinus at h
  split at h <;> cases h <;> rfl

/-- Splitting a sign off digits with a minus or without. -/
theorem splitSign_minus (negative : Bool) {digits : List Char}
    (hdigits : ∀ d ∈ digits, isDigit d = true) :
    Number.splitSign (minus negative ++ digits) = (negative, digits) := by
  cases negative with
  | true => rfl
  | false =>
    cases digits with
    | nil => rfl
    | cons d digits =>
      have hd := hdigits d List.mem_cons_self
      change Number.splitSign (d :: digits) = _
      rw [Number.splitSign]
      · intro after heq
        exact ne_of_isDigit hd (by decide) (List.cons_eq_cons.mp heq).1
      · intro after heq
        exact ne_of_isDigit hd (by decide) (List.cons_eq_cons.mp heq).1

/-- Digits with a minus or without are the integer that they stand for, if it has 64 bits. -/
theorem int64?_eq_some_iff {negative : Bool} {digits : List Char} {n : Int64}
    (hdigits : ∀ d ∈ digits, isDigit d = true) :
    Number.int64? (minus negative ++ digits) = some n ↔
      digits ≠ [] ∧ n.toInt = (if negative then -1 else 1) * Number.digitsValue digits := by
  have hall : digits.all isDigit = true := List.all_eq_true.mpr hdigits
  have hvalue : (if negative then -(Number.digitsValue digits : Int) else Number.digitsValue digits) =
      (if negative then -1 else 1) * Number.digitsValue digits := by
    cases negative <;> simp
  simp only [Number.int64?, splitSign_minus negative hdigits, hall, hvalue, Bool.not_true,
    Bool.or_false, List.isEmpty_iff, Bool.and_eq_true, decide_eq_true_eq]
  generalize (if negative then -1 else 1) * (Number.digitsValue digits : Int) = value
  by_cases hempty : digits = []
  · simp [hempty]
  · rw [if_neg hempty]
    constructor
    · intro h
      split at h
      · next hrange =>
        cases h
        refine ⟨hempty, Int64.toInt_ofInt_of_le hrange.1 ?_⟩
        exact Int.lt_of_le_of_lt hrange.2 (by decide)
      · cases h
    · rintro ⟨-, rfl⟩
      rw [if_pos ⟨n.minValue_le_toInt, n.toInt_le⟩, Int64.ofInt_toInt]

/-- An integer is read where one starts and no further digit follows. -/
theorem integer?_eq_some_iff {cs rest : List Char} {n : Int64} :
    integer? cs = some (n, rest) ↔ (Token.integer n).Starts cs rest ∧ EndsDigits rest := by
  have hread : ∀ {negative : Bool} {body digits after : List Char},
      splitMinus cs = (negative, body) → Number.spanDigits body = (digits, after) →
      integer? cs = (Number.int64? (minus negative ++ digits)).map fun n => (n, after) := by
    intro negative body digits after hminus hdigits
    unfold integer?
    simp only [hminus, hdigits]
    cases negative <;> rfl
  constructor
  · intro h
    rcases hminus : splitMinus cs with ⟨negative, body⟩
    rcases hspan : Number.spanDigits body with ⟨digits, after⟩
    rw [hread hminus hspan, Option.map_eq_some_iff] at h
    obtain ⟨n', hn, heq⟩ := h
    obtain ⟨rfl, rfl⟩ := Prod.mk.inj heq
    obtain ⟨rfl, hdigits, hends⟩ := spanDigits_eq_iff.mp hspan
    obtain ⟨hne, hvalue⟩ := (int64?_eq_some_iff hdigits).mp hn
    rw [eq_minus_append_of_splitMinus hminus]
    exact ⟨.integer hne hdigits hvalue, hends⟩
  · rintro ⟨h, hends⟩
    cases h with
    | integer hne hdigits hvalue =>
      rw [hread (splitMinus_minus _ _ hne hdigits) (spanDigits_eq_iff.mpr ⟨rfl, hdigits, hends⟩),
        (int64?_eq_some_iff hdigits).mpr ⟨hne, hvalue⟩]
      rfl

/-- A decimal is read where one starts and no further digit follows. -/
theorem decimal?_eq_some_iff {cs rest : List Char} {x : Double} :
    decimal? cs = some (x, rest) ↔ (Token.real x).Starts cs rest ∧ EndsDigits rest := by
  constructor
  · intro h
    unfold decimal? at h
    rcases hminus : splitMinus cs with ⟨negative, body⟩
    simp only [hminus] at h
    split at h
    · cases h
    · next whole after hwholene hwhole =>
      split at h
      · cases h
      · next fraction rest' hfractionne hfraction =>
        obtain ⟨rfl, hdigits, -⟩ := spanDigits_eq_iff.mp hwhole
        obtain ⟨rfl, hdigits', hends⟩ := spanDigits_eq_iff.mp hfraction
        cases h
        rw [eq_minus_append_of_splitMinus hminus]
        exact ⟨.real hwholene hfractionne hdigits hdigits' (Number.isNearest_decimalValue _ _ _),
          hends⟩
    · cases h
  · rintro ⟨h, hends⟩
    cases h with
    | @real negative whole fraction _ _ hwholene hfractionne hdigits hdigits' hnearest =>
      have hpoint : EndsDigits ('.' :: (fraction ++ rest)) := by
        rintro c hc
        obtain rfl : '.' = c := by simpa using hc
        decide
      have hwhole : Number.spanDigits (whole ++ '.' :: (fraction ++ rest)) = _ :=
        spanDigits_eq_iff.mpr ⟨rfl, hdigits, hpoint⟩
      have hfraction : Number.spanDigits (fraction ++ rest) = _ :=
        spanDigits_eq_iff.mpr ⟨rfl, hdigits', hends⟩
      have hvalue := hnearest.unique (Number.isNearest_decimalValue negative
        (Number.digitsValue (whole ++ fraction)) fraction.length)
      unfold decimal?
      simp only [splitMinus_minus _ _ hwholene hdigits, hwhole, hfraction, hvalue]

/-- Digits without a point behind them are no decimal. -/
theorem decimal?_of_integer {cs rest : List Char} {n : Int64}
    (h : (Token.integer n).Starts cs rest) (hends : EndsDigits rest) (hpoint : rest.head? ≠ some '.') :
    decimal? cs = none := by
  cases h with
  | @integer negative digits _ _ hne hdigits hvalue =>
    have hspan : Number.spanDigits (digits ++ rest) = _ :=
      spanDigits_eq_iff.mpr ⟨rfl, hdigits, hends⟩
    unfold decimal?
    simp only [splitMinus_minus _ _ hne hdigits, hspan]
    split
    · rfl
    · next heq =>
      obtain ⟨-, rfl⟩ := Prod.mk.inj heq
      exact absurd rfl hpoint
    · rfl

/-! ## Texts -/

/-- A quote that begins the spelling of a text closes it or is the first of two. -/
theorem quote_cons_eq_doubled_append {cs text rest : List Char} :
    '\'' :: cs = doubled text ++ '\'' :: rest ↔
      text = [] ∧ cs = rest ∨
        ∃ text' cs', text = '\'' :: text' ∧ cs = '\'' :: cs' ∧ cs' = doubled text' ++ '\'' :: rest := by
  cases text with
  | nil => simp [doubled]
  | cons c text =>
    by_cases hc : c = '\''
    · subst hc
      simp [doubled]
    · simp [doubled, hc, Ne.symm hc]

/-- Any other character that begins the spelling of a text is its first. -/
theorem cons_eq_doubled_append {c : Char} {cs text rest : List Char} (hc : c ≠ '\'') :
    c :: cs = doubled text ++ '\'' :: rest ↔
      ∃ text', text = c :: text' ∧ cs = doubled text' ++ '\'' :: rest := by
  cases text with
  | nil => simp [doubled, hc]
  | cons c' text =>
    by_cases hc' : c' = '\''
    · subst hc'
      simp [doubled, hc, Ne.symm hc]
    · simp only [doubled, List.flatMap_cons, if_neg hc', List.cons_append, List.cons.injEq]
      constructor
      · rintro ⟨rfl, h⟩
        exact ⟨text, ⟨rfl, rfl⟩, h⟩
      · rintro ⟨_, ⟨rfl, rfl⟩, h⟩
        exact ⟨rfl, h⟩

/-- A text that is read behind another character. -/
theorem map_cons_untilQuote_eq_ok_iff {c : Char} {cs text rest : List Char} :
    (untilQuote cs).map (fun (text, rest) => (c :: text, rest)) = .ok (text, rest) ↔
      ∃ text', text = c :: text' ∧ untilQuote cs = .ok (text', rest) := by
  rw [map_eq_ok]
  constructor
  · rintro ⟨⟨text', rest'⟩, hread, heq⟩
    obtain ⟨rfl, rfl⟩ := Prod.mk.inj heq
    exact ⟨text', rfl, hread⟩
  · rintro ⟨text', rfl, hread⟩
    exact ⟨(text', rest), hread, rfl⟩

/-- A text is read up to the first quote that is not doubled. -/
theorem untilQuote_eq_ok_iff {cs text rest : List Char} :
    untilQuote cs = .ok (text, rest) ↔
      cs = doubled text ++ '\'' :: rest ∧ rest.head? ≠ some '\'' := by
  induction cs using untilQuote.induct generalizing text with
  | case1 cs ih =>
    rw [untilQuote, map_cons_untilQuote_eq_ok_iff, quote_cons_eq_doubled_append]
    constructor
    · rintro ⟨text', rfl, hread⟩
      obtain ⟨hcs, hends⟩ := ih.mp hread
      exact ⟨Or.inr ⟨text', cs, rfl, rfl, hcs⟩, hends⟩
    · rintro ⟨⟨-, rfl⟩ | ⟨text', cs', rfl, hcs', hcs⟩, hends⟩
      · exact absurd rfl hends
      · obtain ⟨-, rfl⟩ := List.cons_eq_cons.mp hcs'
        exact ⟨text', rfl, ih.mpr ⟨hcs, hends⟩⟩
  | case2 cs hsingle =>
    have hread : untilQuote ('\'' :: cs) = .ok ([], cs) := by
      rw [untilQuote]
      exact hsingle
    rw [hread, quote_cons_eq_doubled_append, Except.ok.injEq, Prod.mk.injEq]
    constructor
    · rintro ⟨rfl, rfl⟩
      refine ⟨Or.inl ⟨rfl, rfl⟩, fun hhead => ?_⟩
      obtain ⟨cs', rfl⟩ := List.head?_eq_some_iff.mp hhead
      exact hsingle cs' rfl
    · rintro ⟨⟨rfl, rfl⟩ | ⟨text', cs', -, hcs', -⟩, -⟩
      · exact ⟨rfl, rfl⟩
      · exact (hsingle cs' hcs').elim
  | case3 c cs hdouble hquote ih =>
    rw [untilQuote, map_cons_untilQuote_eq_ok_iff, cons_eq_doubled_append hquote]
    rotate_left
    · exact hdouble
    · exact hquote
    constructor
    · rintro ⟨text', rfl, hread⟩
      obtain ⟨hcs, hends⟩ := ih.mp hread
      exact ⟨⟨text', rfl, hcs⟩, hends⟩
    · rintro ⟨⟨text', rfl, hcs⟩, hends⟩
      exact ⟨text', rfl, ih.mpr ⟨hcs, hends⟩⟩
  | case4 => simp [untilQuote]

/-- A text is read where one starts. -/
theorem quotedText_eq_ok_iff {cs rest : List Char} {s : String} :
    quotedText cs = .ok (s, rest) ↔ (Token.text s).Starts cs rest ∧ rest.head? ≠ some '\'' := by
  constructor
  · intro h
    unfold quotedText at h
    split at h
    · next cs =>
      obtain ⟨⟨text, rest'⟩, hread, heq⟩ := map_eq_ok.mp h
      obtain ⟨rfl, rfl⟩ := Prod.mk.inj heq
      obtain ⟨rfl, hends⟩ := untilQuote_eq_ok_iff.mp hread
      exact ⟨.text, hends⟩
    · cases h
  · rintro ⟨h, hends⟩
    cases h with
    | text =>
      rw [quotedText, untilQuote_eq_ok_iff.mpr ⟨rfl, hends⟩]
      rfl

/-! ## Values -/

/-- What is read as a value starts with a token that stands for it. -/
theorem starts_of_literal {cs rest : List Char} {v : Scalar} (h : literal cs = .ok (v, rest)) :
    ∃ t : Token, t.value? = some v ∧ t.Starts cs rest := by
  unfold literal at h
  split at h
  · next hread =>
    cases h
    exact ⟨.keyword .null, rfl, keyword?_eq_some_iff.mp hread⟩
  split at h
  · next hread =>
    cases h
    exact ⟨.keyword .true, rfl, keyword?_eq_some_iff.mp hread⟩
  split at h
  · next hread =>
    cases h
    exact ⟨.keyword .false, rfl, keyword?_eq_some_iff.mp hread⟩
  split at h
  · next hread =>
    cases h
    exact ⟨.real _, rfl, (decimal?_eq_some_iff.mp hread).1⟩
  split at h
  · next hread =>
    cases h
    exact ⟨.integer _, rfl, (integer?_eq_some_iff.mp hread).1⟩
  · obtain ⟨⟨s, rest'⟩, hread, heq⟩ := map_eq_ok.mp h
    obtain ⟨rfl, rfl⟩ := Prod.mk.inj heq
    exact ⟨.text s, rfl, (quotedText_eq_ok_iff.mp hread).1⟩

/-- A text does not go on with what a value could go on with. -/
def EndsValue (rest : List Char) : Prop := ∀ c ∈ rest.head?, isDigit c = false ∧ c ≠ '.' ∧ c ≠ '\''

/-- No letter starts a number. -/
theorem keyword?_of_number {t : Token} {cs rest : List Char} (h : t.Starts cs rest)
    (ht : (∃ n, t = .integer n) ∨ ∃ x, t = .real x) (word : Keyword) :
    keyword? word.text cs = none := by
  obtain ⟨c, cs', rfl, rfl | hdigit⟩ := h.number_head ht
  · exact keyword?_eq_none_of_lt (by decide) word
  · exact keyword?_eq_none_of_lt (lowerAscii_of_isDigit hdigit) word

/-- A quote starts no number. -/
theorem number?_quote (cs : List Char) :
    decimal? ('\'' :: cs) = none ∧ integer? ('\'' :: cs) = none := by
  have hhead : ∀ {t : Token} {rest : List Char}, t.Starts ('\'' :: cs) rest →
      ¬((∃ n, t = .integer n) ∨ ∃ x, t = .real x) := by
    intro t rest h ht
    obtain ⟨c, cs', hcs, hc⟩ := h.number_head ht
    obtain ⟨rfl, -⟩ := List.cons_eq_cons.mp hcs
    revert hc
    decide
  constructor
  · rw [Option.eq_none_iff_forall_ne_some]
    rintro ⟨x, rest⟩ hread
    exact hhead (decimal?_eq_some_iff.mp hread).1 (Or.inr ⟨x, rfl⟩)
  · rw [Option.eq_none_iff_forall_ne_some]
    rintro ⟨n, rest⟩ hread
    exact hhead (integer?_eq_some_iff.mp hread).1 (Or.inl ⟨n, rfl⟩)

/-- Where no keyword is read, a value is a number or a text. -/
theorem literal_of_keyword?_eq_none {cs : List Char}
    (h : ∀ word : Keyword, keyword? word.text cs = none) :
    literal cs =
      match decimal? cs with
      | some (x, rest) => .ok (.real x, rest)
      | none =>
        match integer? cs with
        | some (n, rest) => .ok (.integer n, rest)
        | none => (quotedText cs).map fun (text, rest) => (.text text, rest) := by
  have hnull : keyword? "null" cs = none := h .null
  have htrue : keyword? "true" cs = none := h .true
  have hfalse : keyword? "false" cs = none := h .false
  unfold literal
  generalize keyword? "null" cs = null at hnull ⊢
  generalize keyword? "true" cs = yes at htrue ⊢
  generalize keyword? "false" cs = no at hfalse ⊢
  subst hnull htrue hfalse
  rfl

/-- A token that stands for a value is read as it, if nothing follows that the value could go on
with. -/
theorem literal_of_starts {t : Token} {v : Scalar} {cs rest : List Char} (hvalue : t.value? = some v)
    (h : t.Starts cs rest) (hends : EndsValue rest) : literal cs = .ok (v, rest) := by
  have hdigits : EndsDigits rest := fun c hc => (hends c hc).1
  have hpoint : rest.head? ≠ some '.' := fun hc => (hends '.' hc).2.1 rfl
  have hquote : rest.head? ≠ some '\'' := fun hc => (hends '\'' hc).2.2 rfl
  cases t with
  | keyword word =>
    have hread := keyword?_eq_some_iff.mpr h
    cases word with
    | null =>
      have hnull : keyword? "null" cs = some rest := hread
      cases hvalue
      simp only [literal, hnull]
    | «true» =>
      have hnull : keyword? "null" cs = none := keyword?_eq_none_of_starts .null h nofun
      have htrue : keyword? "true" cs = some rest := hread
      cases hvalue
      simp only [literal, hnull, htrue]
    | «false» =>
      have hnull : keyword? "null" cs = none := keyword?_eq_none_of_starts .null h nofun
      have htrue : keyword? "true" cs = none := keyword?_eq_none_of_starts .true h nofun
      have hfalse : keyword? "false" cs = some rest := hread
      cases hvalue
      simp only [literal, hnull, htrue, hfalse]
    | _ => cases hvalue
  | integer n =>
    cases hvalue
    rw [literal_of_keyword?_eq_none (keyword?_of_number h (Or.inl ⟨n, rfl⟩)),
      decimal?_of_integer h hdigits hpoint, integer?_eq_some_iff.mpr ⟨h, hdigits⟩]
  | real x =>
    cases hvalue
    rw [literal_of_keyword?_eq_none (keyword?_of_number h (Or.inr ⟨x, rfl⟩)),
      decimal?_eq_some_iff.mpr ⟨h, hdigits⟩]
  | text s =>
    cases hvalue
    have hread := quotedText_eq_ok_iff.mpr ⟨h, hquote⟩
    have hhead : ∃ cs', cs = '\'' :: cs' := by
      cases h with
      | text => exact ⟨_, rfl⟩
    obtain ⟨cs', rfl⟩ := hhead
    obtain ⟨hdecimal, hinteger⟩ := number?_quote cs'
    rw [literal_of_keyword?_eq_none (keyword?_eq_none_of_lt (by decide)), hdecimal, hinteger, hread]
    rfl
  | _ => cases hvalue

end TypedQuery.Search
