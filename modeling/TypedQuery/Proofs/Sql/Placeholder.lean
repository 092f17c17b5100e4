import TypedQuery.Sql.Placeholder
import TypedQuery.Proofs.Sql.Name

/-!
# The placeholders of a text put together from pieces

A statement is written piece by piece. `Shows piece ns` says that a piece stands outside of double
quotes at both ends and has the placeholders `ns`, whatever follows it that is not a digit. Names
show nothing, whatever characters they are made of (`shows_identifier`); a placeholder shows its own
number (`shows_placeholder`); pieces that follow one another show their numbers in that order
(`Shows.append`).
-/

set_option autoImplicit false

namespace TypedQuery.Sql

open TypedQuery.Text

/-- A text that does not go on the digits in front of it. -/
def NoDigitFirst (rest : List Char) : Prop := ∀ c ∈ rest.head?, isDigit c = false

/-- A piece of a statement with the placeholders `ns`. -/
def Shows (piece : List Char) (ns : List Nat) : Prop :=
  ∀ rest, NoDigitFirst rest → indices (piece ++ rest) = ns ++ indices rest

/-- A character that stands for itself outside of double quotes. -/
def isPlain (c : Char) : Bool := c != '?' && c != '"'

/-! ## Characters and words -/

@[simp]
theorem filterMap_index?_character (c : Char) (pieces : List Token) :
    (Token.character c :: pieces).filterMap Token.index? = pieces.filterMap Token.index? := rfl

@[simp]
theorem filterMap_index?_placeholder (n : Nat) (pieces : List Token) :
    (Token.placeholder n :: pieces).filterMap Token.index? =
      n :: pieces.filterMap Token.index? := rfl

theorem noDigitFirst_nil : NoDigitFirst [] := by
  intro c hc
  simp at hc

theorem noDigitFirst_cons {c : Char} {rest : List Char} (h : isDigit c = false) :
    NoDigitFirst (c :: rest) := by
  intro d hd
  simp only [List.head?_cons, Option.mem_def, Option.some.injEq] at hd
  rw [← hd]
  exact h

theorem NoDigitFirst.append {a b : List Char} (ha : NoDigitFirst a) (hb : NoDigitFirst b) :
    NoDigitFirst (a ++ b) := by
  cases a with
  | nil => exact hb
  | cons c a => exact noDigitFirst_cons (ha c rfl)

/-- The numbers of a piece that stands alone. -/
theorem Shows.indices_eq {piece : List Char} {ns : List Nat} (h : Shows piece ns) :
    indices piece = ns := by
  have hrest := h [] noDigitFirst_nil
  simpa [indices, tokens, tokensFrom] using hrest

theorem shows_nil : Shows [] [] := fun _ _ => rfl

/-- Pieces one after the other, the second one not beginning with a digit. -/
theorem Shows.append {a b : List Char} {ns ms : List Nat} (ha : Shows a ns) (hb : Shows b ms)
    (hfirst : NoDigitFirst b) : Shows (a ++ b) (ns ++ ms) := by
  intro rest hrest
  rw [List.append_assoc, ha _ (hfirst.append hrest), hb rest hrest, List.append_assoc]

/-- A character that stands for itself shows nothing. -/
theorem indices_cons {c : Char} (hc : isPlain c = true) (rest : List Char) :
    indices (c :: rest) = indices rest := by
  simp only [isPlain, Bool.and_eq_true, bne_iff_ne] at hc
  have hquote : (c == '"') = false := beq_eq_false_iff_ne.mpr hc.2
  simp [indices, tokens, tokensFrom, hc.1, hquote]

theorem Shows.cons {c : Char} {piece : List Char} {ns : List Nat} (hc : isPlain c = true)
    (h : Shows piece ns) : Shows (c :: piece) ns := by
  intro rest hrest
  rw [List.cons_append, indices_cons hc, h rest hrest]

/-- A word in front of a piece shows nothing of its own. -/
theorem Shows.word_append {w piece : List Char} {ns : List Nat}
    (hword : w.all isPlain = true) (h : Shows piece ns) : Shows (w ++ piece) ns := by
  induction w with
  | nil => exact h
  | cons c w ih =>
    rw [List.all_cons, Bool.and_eq_true] at hword
    exact (ih hword.2).cons hword.1

theorem shows_word {w : List Char} (hword : w.all isPlain = true) : Shows w [] := by
  simpa using Shows.word_append hword shows_nil

/-! ## Names -/

/-- A quoted name shows nothing: every quote in it closes the quotes and opens them again. -/
theorem indices_doubleQuotes (name rest : List Char) :
    (tokensFrom true none (doubleQuotes name ++ '"' :: rest)).filterMap Token.index? =
      indices rest := by
  induction name with
  | nil => simp [doubleQuotes, tokensFrom, indices, tokens]
  | cons c name ih =>
    by_cases hc : c = '"'
    · simp [doubleQuotes, hc, tokensFrom, ih]
    · have hquote : (c != '"') = true := bne_iff_ne.mpr hc
      simp [doubleQuotes, hc, tokensFrom, hquote, ih]

theorem shows_quoted (name : List Char) : Shows (quoted name) [] := by
  intro rest _
  have hname := indices_doubleQuotes name rest
  simpa [quoted, indices, tokens, tokensFrom] using hname

/-- A character of a bare name stands for itself. -/
theorem isPlain_of_isNameChar {c : Char} (hc : isNameChar c = true) : isPlain c = true := by
  simp only [isPlain, Bool.and_eq_true, bne_iff_ne]
  constructor
  · rintro rfl
    exact absurd hc (by decide)
  · rintro rfl
    exact absurd hc (by decide)

/-- A name shows nothing, whatever characters it is made of. -/
theorem shows_identifier (name : String) : Shows (identifier name) [] := by
  rcases identifier_cases name with ⟨hbare, heq⟩ | heq
  · rw [heq]
    refine shows_word (List.all_eq_true.mpr ?_)
    intro c hc
    exact isPlain_of_isNameChar (hbare.nameChars c hc)
  · rw [heq]
    exact shows_quoted name.toList

/-! ## Placeholders and lists -/

/-- Digits are read to their end. -/
theorem tokensFrom_digits {digits : List Char} (hdigits : ∀ c ∈ digits, isDigit c = true)
    (k : Nat) {rest : List Char} (hrest : NoDigitFirst rest) :
    tokensFrom false (some k) (digits ++ rest) =
      .placeholder (Nat.ofDigitChars 10 digits k) :: tokens rest := by
  induction digits generalizing k with
  | nil =>
    cases rest with
    | nil => simp [tokensFrom, tokens]
    | cons c rest => simp [tokensFrom, tokens, hrest c rfl]
  | cons c digits ih =>
    have hc : isDigit c = true := hdigits c (by simp)
    rw [List.cons_append, tokensFrom]
    simp only [hc, if_true]
    rw [ih (fun d hd => hdigits d (by simp [hd])), Nat.ofDigitChars_cons]
    rfl

/-- The digits of a number are digits. -/
theorem isDigit_of_mem_toDigits {c : Char} {n : Nat} (hc : c ∈ Nat.toDigits 10 n) :
    isDigit c = true := by
  have h := Nat.isDigit_of_mem_toDigits (by decide) (by decide) hc
  simpa [Char.isDigit, isDigit, Char.le_def, UInt32.le_iff_toNat_le] using h

/-- A placeholder shows its number. -/
theorem shows_placeholder (n : Nat) : Shows ('?' :: Nat.toDigits 10 n) [n] := by
  intro rest hrest
  have hdigits : ∀ c ∈ Nat.toDigits 10 n, isDigit c = true := fun c => isDigit_of_mem_toDigits
  have hread := tokensFrom_digits hdigits 0 hrest
  rw [Nat.ofDigitChars_ten_toDigits] at hread
  have hpieces : tokens ('?' :: Nat.toDigits 10 n ++ rest) = .placeholder n :: tokens rest := by
    rw [← hread]
    rfl
  rw [indices, hpieces]
  rfl

/-- The items of a list show their numbers one after the other. -/
theorem shows_separated {α : Type} (text : α → List Char) (numbers : α → List Nat) (items : List α)
    (h : ∀ x ∈ items, Shows (text x) (numbers x)) :
    Shows (separated ", " (items.map text)) (items.flatMap numbers) := by
  induction items with
  | nil => exact shows_nil
  | cons x items ih =>
    cases items with
    | nil => simpa [separated] using h x (by simp)
    | cons y items =>
      have htail := ih (fun z hz => h z (by simp [hz]))
      have hsplit : separated ", " ((x :: y :: items).map text) =
          text x ++ (", ".toList ++ separated ", " ((y :: items).map text)) := by
        simp [separated, List.intercalate_cons_cons]
      rw [hsplit, List.flatMap_cons]
      exact (h x (by simp)).append (htail.word_append (by decide)) (noDigitFirst_cons (by decide))

theorem shows_separated_nil {α : Type} (text : α → List Char) (items : List α)
    (h : ∀ x ∈ items, Shows (text x) []) : Shows (separated ", " (items.map text)) [] := by
  have hitems := shows_separated text (fun _ => []) items h
  rwa [List.flatMap_eq_nil_iff.mpr fun _ _ => rfl] at hitems

end TypedQuery.Sql
