import TypedQuery.Proofs.Sql.Keywords
import Mathlib.Data.List.Infix

/-!
# A reader of lists

Names and placeholders stand in lists whose items are separated by commas and which a parenthesis
closes. Such a list is read item by item from the left, knowing nothing of how lists are written.
What is written for a list that is not empty is read as its items, in their order, whatever
characters the names are made of (`readNames_separated`, `readNumbers_separated`). Where a list of
placeholders is set against one of names, they go together by their places (`readPairs`).
-/

set_option autoImplicit false

namespace TypedQuery.Sql.Reader

open TypedQuery.Text

variable {α : Type}

/-- The items of a list up to its closing parenthesis, and what follows it. -/
def readList (item : Lexeme → Option α) : Nat → List Char → Option (List α × List Char)
  | 0, _ => none
  | fuel + 1, text =>
    (lexeme? text).bind fun (lexeme, rest) =>
      (item lexeme).bind fun a =>
        match rest.dropWhile isSpace with
        | ',' :: rest => (readList item fuel rest).map fun (items, rest) => (a :: items, rest)
        | ')' :: rest => some ([a], rest)
        | _ => none

/-- The number of a placeholder. -/
def Lexeme.number? : Lexeme → Option Nat
  | .placeholder number => some number
  | _ => none

/-- The names of a list, and what follows its closing parenthesis. Every item takes a character from
the text, so that no more steps than these are needed. -/
def readNames (text : List Char) : Option (List String × List Char) :=
  readList (Lexeme.name? reservedWords) text.length text

/-- The numbers of a list of placeholders, and what follows its closing parenthesis. -/
def readNumbers (text : List Char) : Option (List Nat × List Char) :=
  readList Lexeme.number? text.length text

/-! ## Single items -/

/-- A text that is read as one item wherever a comma or the end of the list follows it. -/
def ReadsAs (item : Lexeme → Option α) (text : List Char) (a : α) : Prop :=
  ∀ c rest, c = ',' ∨ c = ')' →
    ∃ lexeme, lexeme? (text ++ c :: rest) = some (lexeme, c :: rest) ∧ item lexeme = some a

theorem readsAs_identifier (name : String) :
    ReadsAs (Lexeme.name? reservedWords) (identifier name) name := by
  intro c rest hc
  have hends : EndsName (c :: rest) := by
    apply endsName_of
    rcases hc with rfl | rfl <;> decide
  have hwords : ∀ word ∈ reservedWords, IsGrammarWord word := by decide
  have hname := name?_nameLexeme hwords name
  rw [unlessOverlooked_singleton, overlooked_reservedWords] at hname
  exact ⟨nameLexeme name, lexeme?_identifier name hends, hname⟩

theorem readsAs_placeholder (n : Nat) :
    ReadsAs Lexeme.number? ('?' :: Nat.toDigits 10 n) n := by
  intro c rest hc
  have hends : NoDigitFirst (c :: rest) := by
    apply noDigitFirst_cons
    rcases hc with rfl | rfl <;> decide
  exact ⟨_, lexeme?_placeholder n hends, rfl⟩

/-! ## Lists -/

variable {item : Lexeme → Option α}

theorem readList_space (fuel : Nat) (text : List Char) :
    readList item fuel (' ' :: text) = readList item fuel text := by
  cases fuel with
  | zero => rfl
  | succ fuel => rw [readList, readList, lexeme?_space]

theorem separated_cons_cons (x y : List Char) (texts : List (List Char)) :
    separated ", " (x :: y :: texts) = x ++ ',' :: ' ' :: separated ", " (y :: texts) := by
  simp [separated, List.intercalate_cons_cons]

/-- The last item of a list. -/
theorem readList_last {text : List Char} {a : α} (h : ReadsAs item text a) (fuel : Nat)
    (rest : List Char) :
    readList item (fuel + 1) (text ++ ')' :: rest) = some ([a], rest) := by
  obtain ⟨lexeme, hlexeme, hitem⟩ := h ')' rest (.inr rfl)
  have hclose : (')' :: rest).dropWhile isSpace = ')' :: rest :=
    List.dropWhile_cons_of_neg (by decide)
  simp only [readList, hlexeme, hitem, Option.bind_some, hclose]

/-- An item in front of others. -/
theorem readList_item {text : List Char} {a : α} (h : ReadsAs item text a) (fuel : Nat)
    (rest : List Char) :
    readList item (fuel + 1) (text ++ ',' :: rest) =
      (readList item fuel rest).map fun (items, rest) => (a :: items, rest) := by
  obtain ⟨lexeme, hlexeme, hitem⟩ := h ',' rest (.inl rfl)
  have hcomma : (',' :: rest).dropWhile isSpace = ',' :: rest :=
    List.dropWhile_cons_of_neg (by decide)
  simp only [readList, hlexeme, hitem, Option.bind_some, hcomma]

/-- A written list is read as its items if each of them is. -/
theorem readList_separated {text : α → List Char} (h : ∀ a, ReadsAs item (text a) a)
    {items : List α} (hitems : items ≠ []) {fuel : Nat} (hfuel : items.length ≤ fuel)
    (rest : List Char) :
    readList item fuel (separated ", " (items.map text) ++ ')' :: rest) = some (items, rest) := by
  induction items generalizing fuel with
  | nil => exact absurd rfl hitems
  | cons a items ih =>
    rw [List.length_cons] at hfuel
    obtain ⟨fuel, rfl⟩ : ∃ k, fuel = k + 1 := ⟨fuel - 1, by omega⟩
    cases items with
    | nil =>
      have hone : separated ", " ([a].map text) = text a := by simp [separated]
      rw [hone]
      exact readList_last (h a) fuel rest
    | cons b items =>
      have htail := ih (List.cons_ne_nil b items) (Nat.le_of_succ_le_succ hfuel)
      rw [List.map_cons] at htail
      rw [List.map_cons, List.map_cons, separated_cons_cons, List.append_assoc, List.cons_append,
        List.cons_append, readList_item (h a), readList_space, htail]
      rfl

/-- A written list is at least as long as the number of its items. -/
theorem length_le_separated (text : α → List Char) (items : List α) :
    items.length ≤ (separated ", " (items.map text)).length + 1 := by
  induction items with
  | nil => exact Nat.zero_le _
  | cons a items ih =>
    cases items with
    | nil => exact Nat.le_add_left 1 _
    | cons b items =>
      rw [List.map_cons] at ih
      rw [List.map_cons, List.map_cons, separated_cons_cons]
      simp only [List.length_cons, List.length_append] at ih ⊢
      omega

/-- The names of a written list, whatever characters they are made of. -/
theorem readNames_separated {names : List String} (h : names ≠ []) (rest : List Char) :
    readNames (separated ", " (names.map identifier) ++ ')' :: rest) = some (names, rest) := by
  apply readList_separated readsAs_identifier h
  have hlength := length_le_separated identifier names
  rw [List.length_append, List.length_cons]
  omega

/-- The numbers of a written list of placeholders. -/
theorem readNumbers_separated {numbers : List Nat} (h : numbers ≠ []) (rest : List Char) :
    readNumbers (separated ", " (numbers.map fun n => '?' :: Nat.toDigits 10 n) ++ ')' :: rest) =
      some (numbers, rest) := by
  apply readList_separated readsAs_placeholder h
  have hlength := length_le_separated (fun n => '?' :: Nat.toDigits 10 n) numbers
  rw [List.length_append, List.length_cons]
  omega

/-! ## Names with their placeholders -/

/-- The names of a list with the numbers of the placeholders that are set against them in a second
list of the same length, and what follows. A text stands between the lists and opens the second. -/
def readPairs (between : String) (text : List Char) : Option (List (String × Nat) × List Char) :=
  (readNames text).bind fun (names, rest) =>
    (rest.dropPrefix? between.toList).bind fun rest =>
      (readNumbers rest).bind fun (numbers, rest) =>
        if names.length = numbers.length then some (names.zip numbers, rest) else none

/-- Two written lists of the same length are read as pairs. -/
theorem readPairs_separated (between : String) {names : List String} {numbers : List Nat}
    (h : names ≠ []) (hlength : names.length = numbers.length) (rest : List Char) :
    readPairs between (separated ", " (names.map identifier) ++ ')' :: (between.toList ++
      (separated ", " (numbers.map fun n => '?' :: Nat.toDigits 10 n) ++ ')' :: rest))) =
        some (names.zip numbers, rest) := by
  have hnumbers : numbers ≠ [] := by
    rintro rfl
    exact h (List.length_eq_zero_iff.mp hlength)
  rw [readPairs, readNames_separated h, Option.bind_some]
  dsimp only
  rw [List.dropPrefix?_append_of_beq _ (beq_self_eq_true _), Option.bind_some,
    readNumbers_separated hnumbers, Option.bind_some]
  exact if_pos hlength

end TypedQuery.Sql.Reader
