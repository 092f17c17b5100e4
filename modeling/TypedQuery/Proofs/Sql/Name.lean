import TypedQuery.Sql.Name
import Mathlib.Tactic.Common

/-!
# The shape of a written name

A name stands in a statement either bare or between double quotes. A bare name is a word of name
characters, so the first character that is none ends it; a quoted name is ended by the first quote
that is not doubled. What follows a name in a statement is never a name character and never a quote,
so either way the name ends exactly where its text does (`identifier_append_inj`).
-/

set_option autoImplicit false

namespace TypedQuery.Sql

open TypedQuery.Text

/-! ## Bare names -/

/-- A word that stands bare: name characters only, the first one no number, and no reserved word. -/
structure BareWord (cs : List Char) : Prop where
  nonempty : cs ≠ []
  nameChars : ∀ c ∈ cs, isNameChar c = true
  headNotNumeric : ∀ c ∈ cs.head?, isNumeric c = false
  notReserved : isReserved cs = false

/-- What needs no quotes is a bare word. -/
theorem bareWord_of_needsQuotes_eq_false {cs : List Char} (h : needsQuotes cs = false) :
    BareWord cs := by
  simp only [needsQuotes, Bool.or_eq_false_iff] at h
  obtain ⟨⟨⟨hempty, hreserved⟩, hchars⟩, hnumeric⟩ := h
  refine ⟨by simpa using hempty, ?_, ?_, hreserved⟩
  · intro c hc
    have := List.any_eq_false.mp hchars c hc
    simpa using this
  · intro c hc
    rw [Option.mem_def] at hc
    simpa [hc] using hnumeric

/-- A name is written as a bare word or between quotes. -/
theorem identifier_cases (name : String) :
    (BareWord name.toList ∧ identifier name = name.toList) ∨
      identifier name = quoted name.toList := by
  unfold identifier
  cases h : needsQuotes name.toList with
  | true => exact Or.inr rfl
  | false => exact Or.inl ⟨bareWord_of_needsQuotes_eq_false h, rfl⟩

/-- An ASCII digit is a number in the sense of the standard. -/
theorem isNumeric_of_isDigit {c : Char} (h : isDigit c = true) : isNumeric c = true := by
  simp only [isDigit, Bool.and_eq_true, decide_eq_true_eq, Char.le_def, UInt32.le_iff_toNat_le] at h
  have hlow : 48 ≤ c.toNat := h.1
  have hhigh : c.toNat ≤ 57 := h.2
  unfold isNumeric numericRanges
  rw [CodeRanges.contains, if_neg (by omega)]
  simp [hhigh]

theorem BareWord.headNotDigit {cs : List Char} (h : BareWord cs) :
    ∀ c ∈ cs.head?, isDigit c = false := by
  intro c hc
  have hnumeric := h.headNotNumeric c hc
  by_contra hdigit
  rw [isNumeric_of_isDigit (by simpa using hdigit)] at hnumeric
  cases hnumeric

/-- A written name does not begin with a digit. -/
theorem identifier_head_not_digit (name : String) :
    ∀ c ∈ (identifier name).head?, isDigit c = false := by
  intro c hc
  rcases identifier_cases name with ⟨hbare, heq⟩ | heq
  · rw [heq] at hc
    exact hbare.headNotDigit c hc
  · rw [heq] at hc
    simp only [quoted, List.cons_append, List.head?_cons, Option.mem_def, Option.some.injEq] at hc
    subst hc
    decide

/-! ## Where a name ends -/

/-- What may follow a name: nothing, or a character that goes on neither a bare name nor a quoted
one. -/
def AfterName (rest : List Char) : Prop :=
  ∀ c ∈ rest.head?, isNameChar c = false ∧ c ≠ '"'

/-- A run of one class is taken to its end. -/
theorem takeWhile_append_of_run {α : Type} {p : α → Bool} {v r : List α} (hv : ∀ a ∈ v, p a = true)
    (hr : ∀ a ∈ r.head?, p a = false) : (v ++ r).takeWhile p = v := by
  rw [List.takeWhile_append_of_pos hv]
  cases r with
  | nil => simp
  | cons a r => simp [hr a rfl]

/-- Dropping a run of one class leaves what follows it. -/
theorem dropWhile_append_of_run {α : Type} {p : α → Bool} {v r : List α} (hv : ∀ a ∈ v, p a = true)
    (hr : ∀ a ∈ r.head?, p a = false) : (v ++ r).dropWhile p = r := by
  rw [List.dropWhile_append_of_pos hv]
  cases r with
  | nil => simp
  | cons a r => simp [hr a rfl]

/-- Two texts that begin with a run of the same class agree on the run and on what follows it. -/
theorem append_inj_of_run {α : Type} (p : α → Bool) {v w r s : List α}
    (hv : ∀ a ∈ v, p a = true) (hw : ∀ a ∈ w, p a = true)
    (hr : ∀ a ∈ r.head?, p a = false) (hs : ∀ a ∈ s.head?, p a = false)
    (h : v ++ r = w ++ s) : v = w ∧ r = s := by
  have hrun : v = w := by
    rw [← takeWhile_append_of_run hv hr, h, takeWhile_append_of_run hw hs]
  subst hrun
  exact ⟨rfl, List.append_cancel_left h⟩

/-- A text with doubled quotes ends at the first quote that is not doubled. -/
theorem doubleQuotes_append_inj {v w r s : List Char}
    (hr : ∀ c ∈ r.head?, c ≠ '"') (hs : ∀ c ∈ s.head?, c ≠ '"')
    (h : doubleQuotes v ++ '"' :: r = doubleQuotes w ++ '"' :: s) : v = w ∧ r = s := by
  induction v generalizing w with
  | nil =>
    cases w with
    | nil => simpa [doubleQuotes] using h
    | cons d w =>
      by_cases hd : d = '"'
      · simp only [doubleQuotes, if_pos hd, List.nil_append, List.cons_append, List.cons.injEq,
          true_and] at h
        exact absurd rfl (hr '"' (by simp [h]))
      · simp only [doubleQuotes, if_neg hd, List.nil_append, List.cons_append,
          List.cons.injEq] at h
        exact absurd h.1.symm hd
  | cons c v ih =>
    cases w with
    | nil =>
      by_cases hc : c = '"'
      · simp only [doubleQuotes, if_pos hc, List.nil_append, List.cons_append, List.cons.injEq,
          true_and] at h
        exact absurd rfl (hs '"' (by simp [← h]))
      · simp only [doubleQuotes, if_neg hc, List.nil_append, List.cons_append,
          List.cons.injEq] at h
        exact absurd h.1 hc
    | cons d w =>
      by_cases hc : c = '"' <;> by_cases hd : d = '"'
      · simp only [doubleQuotes, if_pos hc, if_pos hd, List.cons_append, List.cons.injEq,
          true_and] at h
        obtain ⟨hvw, hrs⟩ := ih h
        exact ⟨by rw [hc, hd, hvw], hrs⟩
      · simp only [doubleQuotes, if_pos hc, if_neg hd, List.cons_append, List.cons.injEq] at h
        exact absurd h.1.symm hd
      · simp only [doubleQuotes, if_neg hc, if_pos hd, List.cons_append, List.cons.injEq] at h
        exact absurd h.1 hc
      · simp only [doubleQuotes, if_neg hc, if_neg hd, List.cons_append, List.cons.injEq] at h
        obtain ⟨hvw, hrs⟩ := ih h.2
        exact ⟨by rw [h.1, hvw], hrs⟩

/-- A bare word is no beginning of a quoted name. -/
theorem bareWord_append_ne_quoted_append {v w r s : List Char} (hv : BareWord v) :
    v ++ r ≠ quoted w ++ s := by
  intro h
  cases v with
  | nil => exact hv.nonempty rfl
  | cons c v =>
    simp only [quoted, List.cons_append, List.cons.injEq] at h
    have hquote := hv.nameChars c (by simp)
    rw [h.1] at hquote
    exact absurd hquote (by decide)

/-- A written name is ended by what follows it: equal texts that begin with a name begin with the
same one and go on in the same way. -/
theorem identifier_append_inj {a b : String} {r s : List Char} (hr : AfterName r)
    (hs : AfterName s) (h : identifier a ++ r = identifier b ++ s) : a = b ∧ r = s := by
  rcases identifier_cases a with ⟨ha, heqa⟩ | heqa <;>
    rcases identifier_cases b with ⟨hb, heqb⟩ | heqb <;>
    rw [heqa, heqb] at h
  · have hab := append_inj_of_run isNameChar ha.nameChars hb.nameChars
      (fun c hc => (hr c hc).1) (fun c hc => (hs c hc).1) h
    exact ⟨String.toList_inj.mp hab.1, hab.2⟩
  · exact absurd h (bareWord_append_ne_quoted_append ha)
  · exact absurd h.symm (bareWord_append_ne_quoted_append hb)
  · simp only [quoted, List.cons_append, List.append_assoc, List.nil_append, List.cons.injEq,
      true_and] at h
    have hab := doubleQuotes_append_inj (fun c hc => (hr c hc).2) (fun c hc => (hs c hc).2) h
    exact ⟨String.toList_inj.mp hab.1, hab.2⟩

end TypedQuery.Sql
