import TypedQuery.Proofs.Sql.Placeholder

/-!
# Raising the numbers of placeholders

A condition that stands behind the new values of a statement has the same text as without them, save
that every number of a placeholder is raised by how many these are (`raised`). `Raises n piece result`
says that a piece of a statement becomes another one in this way, whatever follows it that is not a
digit. A piece without placeholders stays as it is (`Raises.of_shows`): a text that shows no numbers
is read character by character.
-/

set_option autoImplicit false

namespace TypedQuery.Sql

open TypedQuery.Text

/-- The text with the numbers of its placeholders raised. -/
def raised (n : Nat) (cs : List Char) : List Char :=
  expand (fun index => '?' :: Nat.toDigits 10 (index + n)) cs

/-- A piece of a statement that becomes another one when the numbers are raised. -/
def Raises (n : Nat) (piece result : List Char) : Prop :=
  ∀ rest, NoDigitFirst rest → raised n (piece ++ rest) = result ++ raised n rest

/-! ## Pieces without placeholders -/

/-- A placeholder that has begun is shown, whatever comes next. -/
theorem indices_pending_ne_nil (k : Nat) (cs : List Char) :
    (tokensFrom false (some k) cs).filterMap Token.index? ≠ [] := by
  induction cs generalizing k with
  | nil => simp [tokensFrom, Token.index?]
  | cons c cs ih =>
    rw [tokensFrom]
    split
    · exact ih _
    · simp

/-- A text is read character by character up to its first placeholder. -/
theorem tokensFrom_append (quoted : Bool) (piece : List Char)
    (h : (tokensFrom quoted none piece).filterMap Token.index? = []) :
    ∃ quoted', ∀ rest, tokensFrom quoted none (piece ++ rest) =
      piece.map .character ++ tokensFrom quoted' none rest := by
  induction piece generalizing quoted with
  | nil => exact ⟨quoted, fun rest => rfl⟩
  | cons c piece ih =>
    rw [tokensFrom] at h
    simp only [List.cons_append, tokensFrom, List.map_cons]
    split at h
    · next hquoted =>
      obtain ⟨quoted', hrest⟩ := ih _ h
      exact ⟨quoted', fun rest => by rw [if_pos hquoted, hrest]⟩
    · next hquoted =>
      split at h
      · exact absurd h (indices_pending_ne_nil 0 piece)
      · next hc =>
        obtain ⟨quoted', hrest⟩ := ih _ h
        exact ⟨quoted', fun rest => by rw [if_neg hquoted, if_neg hc, hrest]⟩

/-- A piece that shows nothing is read character by character. -/
theorem Shows.tokens_append {piece : List Char} (h : Shows piece []) (rest : List Char) :
    tokens (piece ++ rest) = piece.map .character ++ tokens rest := by
  obtain ⟨quoted, hrest⟩ := tokensFrom_append false piece h.indices_eq
  -- A placeholder behind the piece shows that the piece ends outside of quotes.
  have hbehind : indices (piece ++ ['?', '1']) = [1] :=
    h ['?', '1'] (noDigitFirst_cons (by decide))
  have hcharacters : (piece.map Token.character).filterMap Token.index? = [] := by
    rw [List.filterMap_map]
    exact List.filterMap_eq_nil_iff.mpr fun _ _ => rfl
  rw [indices, tokens, hrest, List.filterMap_append, hcharacters, List.nil_append] at hbehind
  cases quoted with
  | false => exact hrest rest
  | true => cases hbehind

/-! ## Pieces with placeholders -/

section

variable {n : Nat} {a b a' b' piece result : List Char}

theorem raised_nil : raised n [] = [] := rfl

/-- What a piece that stands alone becomes. -/
theorem Raises.raised_eq (h : Raises n piece result) : raised n piece = result := by
  have hrest := h [] noDigitFirst_nil
  rwa [List.append_nil, raised_nil, List.append_nil] at hrest

/-- A piece that shows nothing stays as it is, whatever comes next. -/
theorem Shows.raised_append (h : Shows piece []) (rest : List Char) :
    raised n (piece ++ rest) = piece ++ raised n rest := by
  rw [raised, expand, h.tokens_append, List.flatMap_append, List.flatMap_map]
  exact congrArg (· ++ _) (List.flatMap_singleton' piece)

theorem Raises.of_shows (h : Shows piece []) : Raises n piece piece :=
  fun rest _ => h.raised_append rest

/-- Pieces one after the other, the second one not beginning with a digit. -/
theorem Raises.append (ha : Raises n a a') (hb : Raises n b b') (hfirst : NoDigitFirst b) :
    Raises n (a ++ b) (a' ++ b') := by
  intro rest hrest
  rw [List.append_assoc, ha _ (hfirst.append hrest), hb rest hrest, List.append_assoc]

/-- A word in front of a piece stays as it is. -/
theorem Raises.word_append {w : List Char} (hword : w.all isPlain = true)
    (h : Raises n piece result) : Raises n (w ++ piece) (w ++ result) := by
  intro rest hrest
  rw [List.append_assoc, (shows_word hword).raised_append, h rest hrest, List.append_assoc]

theorem Raises.cons {c : Char} (hc : isPlain c = true) (h : Raises n piece result) :
    Raises n (c :: piece) (c :: result) :=
  h.word_append (w := [c]) (by simpa using hc)

theorem raises_placeholder (n index : Nat) :
    Raises n ('?' :: Nat.toDigits 10 index) ('?' :: Nat.toDigits 10 (index + n)) := by
  intro rest hrest
  have hdigits : ∀ c ∈ Nat.toDigits 10 index, isDigit c = true := fun _ => isDigit_of_mem_toDigits
  have hread := tokensFrom_digits hdigits 0 hrest
  rw [Nat.ofDigitChars_ten_toDigits] at hread
  have htokens : tokens ('?' :: Nat.toDigits 10 index ++ rest) = .placeholder index :: tokens rest :=
    hread
  rw [raised, expand, htokens, List.flatMap_cons]
  rfl

end

end TypedQuery.Sql
