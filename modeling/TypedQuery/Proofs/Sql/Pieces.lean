import TypedQuery.Proofs.Sql.Delimiting
import TypedQuery.Proofs.Sql.Keywords

/-!
# Statements as pieces

A whole statement is cut into pieces from the left to its end, with blanks between them: the lexemes
of expressions, integers, commas and stars. Set against this is what a statement is written as, a
list of places: at each of them stands either a name of a table or of a column, or a piece that is
no name. `CutInto After text places` says that the text is cut into one piece for each of the
places, wherever something of the kind `After` goes on; such texts are put together one behind the
other (`CutInto.append`). At the place of a name stands a single piece, whatever characters the name
has (`cutInto_identifier`).
-/

set_option autoImplicit false

namespace TypedQuery.Sql.Reader

open TypedQuery.Text

/-! ## Pieces -/

/-- A piece of a statement. -/
inductive Piece where
  | lexeme (lexeme : Lexeme)
  | number (value : Nat)
  | comma
  | star
  deriving DecidableEq, Repr

/-- The integer that a text begins with, and what follows it. No letter and no decimal point may
follow its digits. -/
def number? (text : List Char) : Option (Piece × List Char) :=
  let digits := text.takeWhile isDigit
  let rest := text.dropWhile isDigit
  if digits.isEmpty || rest.head?.any (fun c => isWordChar c || c == '.') then none
  else some (.number (Nat.ofDigitChars 10 digits 0), rest)

/-- The first piece of a text, and what follows it. -/
def piece? (text : List Char) : Option (Piece × List Char) :=
  match lexeme? text with
  | some (lexeme, rest) => some (.lexeme lexeme, rest)
  | none =>
    match text.dropWhile isSpace with
    | ',' :: rest => some (.comma, rest)
    | '*' :: rest => some (.star, rest)
    | rest => number? rest

/-- A closed quote takes a character from the text. -/
theorem length_lt_of_closeQuote {text name rest : List Char}
    (h : closeQuote text = some (name, rest)) : rest.length < text.length := by
  fun_induction closeQuote text generalizing name rest with
  | case1 => cases h
  | case2 => cases h; simp
  | case3 rest' ih =>
    obtain ⟨⟨found, left⟩, hfound, heq⟩ := Option.map_eq_some_iff.mp h
    cases heq
    have := ih hfound
    simp only [List.length_cons]
    omega
  | case4 => cases h; simp
  | case5 c cs hc ih =>
    obtain ⟨⟨found, left⟩, hfound, heq⟩ := Option.map_eq_some_iff.mp h
    cases heq
    have := ih hfound
    simp only [List.length_cons]
    omega

/-- A lexeme takes a character from the text. -/
theorem length_lt_of_lexeme? {text rest : List Char} {lexeme : Lexeme}
    (h : lexeme? text = some (lexeme, rest)) : rest.length < text.length := by
  have hspace := (List.dropWhile_suffix (l := text) isSpace).length_le
  unfold lexeme? at h
  cases htext : text.dropWhile isSpace with
  | nil => simp [htext] at h
  | cons c cs =>
    rw [htext, List.length_cons] at hspace
    suffices hrest : rest.length ≤ cs.length by omega
    simp only [htext] at h
    split at h
    · cases h
      exact (List.dropWhile_suffix isWordChar).length_le
    · split at h
      -- signs of one or two characters, and the text that is no lexeme
      all_goals try (cases h; simp)
      case h_4 =>
        obtain ⟨⟨name, left⟩, hclose, heq⟩ := Option.map_eq_some_iff.mp h
        cases heq
        exact Nat.le_of_lt (length_lt_of_closeQuote hclose)
      case h_5 =>
        split at h
        · cases h
        · cases h
          exact (List.dropWhile_suffix isDigit).length_le
      case h_14 => cases h

/-- A number takes a character from the text. -/
theorem length_lt_of_number? {text rest : List Char} {piece : Piece}
    (h : number? text = some (piece, rest)) : rest.length < text.length := by
  unfold number? at h
  dsimp only at h
  split at h
  · cases h
  · next hsome =>
    cases h
    have hlength := congrArg List.length
      (List.takeWhile_append_dropWhile (p := isDigit) (l := text))
    have hdigits : text.takeWhile isDigit ≠ [] := by
      intro hnil
      simp [hnil] at hsome
    have := List.length_pos_iff.mpr hdigits
    rw [List.length_append] at hlength
    omega

/-- Every piece takes a character from the text. -/
theorem length_lt_of_piece? {text rest : List Char} {piece : Piece}
    (h : piece? text = some (piece, rest)) : rest.length < text.length := by
  have hspace := (List.dropWhile_suffix (l := text) isSpace).length_le
  unfold piece? at h
  split at h
  · next hlexeme =>
    cases h
    exact length_lt_of_lexeme? hlexeme
  · split at h
    · next hcomma =>
      cases h
      rw [hcomma] at hspace
      exact hspace
    · next hstar =>
      cases h
      rw [hstar] at hspace
      exact hspace
    · exact Nat.lt_of_lt_of_le (length_lt_of_number? h) hspace

/-- The pieces of a text, if it can be cut into pieces to its end. -/
def pieces (text : List Char) : Option (List Piece) :=
  match _h : piece? text with
  | some (piece, rest) => (pieces rest).map (piece :: ·)
  | none => if text.all isSpace then some [] else none
termination_by text.length
decreasing_by exact length_lt_of_piece? _h

/-- Nothing is cut into no pieces. -/
theorem pieces_nil : pieces [] = some [] := by
  rw [pieces]
  rfl

/-- A text is cut by taking its first piece off. -/
theorem pieces_of_piece? {text rest : List Char} {piece : Piece}
    (h : piece? text = some (piece, rest)) : pieces text = (pieces rest).map (piece :: ·) := by
  rw [pieces]
  split
  · next heq =>
    rw [h] at heq
    cases heq
    rfl
  · next heq =>
    rw [h] at heq
    cases heq

/-- A lexeme is a piece. -/
theorem piece?_of_lexeme? {text rest : List Char} {lexeme : Lexeme}
    (h : lexeme? text = some (lexeme, rest)) : piece? text = some (.lexeme lexeme, rest) := by
  rw [piece?, h]

/-- A blank in front of a text does not change its pieces. -/
theorem pieces_space (text : List Char) : pieces (' ' :: text) = pieces text := by
  have hpiece : piece? (' ' :: text) = piece? text := rfl
  cases h : piece? text with
  | some found => rw [pieces_of_piece? (hpiece.trans h), pieces_of_piece? h]
  | none =>
    have hnone : ∀ text, piece? text = none →
        pieces text = if text.all isSpace then some [] else none := by
      intro text h
      rw [pieces]
      split
      · next heq =>
        rw [h] at heq
        cases heq
      · rfl
    rw [hnone _ (hpiece.trans h), hnone _ h]
    rfl

/-! ## Places -/

/-- A place of a statement: the name of a table or of a column stands there, or a piece that is no
name. -/
inductive Place where
  | name (text : String)
  | sign (piece : Piece)
  deriving DecidableEq, Repr

/-- The piece that a place is written as. A name that needs no quotes is a bare word. -/
def Place.piece : Place → Piece
  | .name text =>
    .lexeme (if needsQuotes text.toList then .quoted text.toList else .word text.toList)
  | .sign found => found

/-- The name at a place. -/
def Place.name? : Place → Option String
  | .name text => some text
  | .sign _ => none

def Place.dot : Place := .sign (.lexeme .dot)

def Place.opening : Place := .sign (.lexeme .opening)

def Place.closing : Place := .sign (.lexeme .closing)

def Place.comparison (op : Operator) : Place := .sign (.lexeme (.comparison op))

def Place.placeholder (number : Nat) : Place := .sign (.lexeme (.placeholder number))

/-- A text that is cut into one piece for each of the places, wherever something of the kind `After`
goes on. -/
def CutInto (After : List Char → Prop) (text : List Char) (places : List Place) : Prop :=
  ∀ ⦃rest : List Char⦄, After rest →
    pieces (text ++ rest) = (pieces rest).map (places.map Place.piece ++ ·)

/-- What may follow a text that nothing goes on. -/
def Anything (_ : List Char) : Prop := True

variable {After Behind : List Char → Prop} {text behind : List Char} {places others : List Place}

/-- The pieces of a text that nothing follows. -/
theorem CutInto.pieces_eq (h : CutInto After text places) (hnil : After []) :
    pieces text = some (places.map Place.piece) := by
  have hpieces := h hnil
  rw [List.append_nil, pieces_nil, Option.map_some, List.append_nil] at hpieces
  exact hpieces

namespace CutInto

/-- A text is cut alike where less may go on. -/
theorem mono (h : CutInto After text places) (himp : ∀ rest, Behind rest → After rest) :
    CutInto Behind text places :=
  fun _ hrest => h (himp _ hrest)

/-- An empty text has no places. -/
theorem nil (After : List Char → Prop) : CutInto After [] [] := by
  intro rest _
  simp

/-- Two texts one behind the other, the second being of the kind that may follow the first. -/
theorem append (h : CutInto After text places) (hbehind : CutInto Behind behind others)
    (hafter : ∀ rest, Behind rest → After (behind ++ rest)) :
    CutInto Behind (text ++ behind) (places ++ others) := by
  intro rest hrest
  rw [List.append_assoc, h (hafter rest hrest), hbehind hrest, Option.map_map, List.map_append]
  congr 1
  funext found
  exact (List.append_assoc ..).symm

/-- A text may stand in front of any other if anything may follow it. -/
theorem append_free (h : CutInto Anything text places) (hbehind : CutInto Behind behind others) :
    CutInto Behind (text ++ behind) (places ++ others) :=
  h.append hbehind fun _ _ => trivial

/-- A blank in front of a text is no place. -/
theorem space (h : CutInto After text places) : CutInto After (' ' :: text) places := by
  intro rest hrest
  rw [List.cons_append, pieces_space, h hrest]

/-- A sign in front of a text. -/
theorem sign {c : Char} {piece : Piece} (h : CutInto After text places)
    (hsign : ∀ rest, piece? (c :: rest) = some (piece, rest)) :
    CutInto After (c :: text) (.sign piece :: places) := by
  intro rest hrest
  rw [List.cons_append, pieces_of_piece? (hsign _), h hrest, Option.map_map]
  rfl

/-- An opening parenthesis in front of a text. -/
theorem opening (h : CutInto After text places) :
    CutInto After ('(' :: text) (.opening :: places) :=
  h.sign fun _ => rfl

/-- A closing parenthesis in front of a text. -/
theorem closing (h : CutInto After text places) :
    CutInto After (')' :: text) (.closing :: places) :=
  h.sign fun _ => rfl

end CutInto

/-- A text that is taken off as one piece. -/
theorem cutInto_of_piece? {place : Place}
    (h : ∀ rest, After rest → piece? (text ++ rest) = some (place.piece, rest)) :
    CutInto After text [place] := by
  intro rest hrest
  rw [pieces_of_piece? (h rest hrest)]
  rfl

/-- A name is one piece, whatever its characters are. -/
theorem cutInto_identifier (name : String) : CutInto EndsName (identifier name) [.name name] :=
  cutInto_of_piece? fun _ hrest => piece?_of_lexeme? (lexeme?_identifier name hrest)

/-- A placeholder is one piece. -/
theorem cutInto_placeholder (n : Nat) :
    CutInto NoDigitFirst ('?' :: Nat.toDigits 10 n) [.placeholder n] :=
  cutInto_of_piece? fun _ hrest => piece?_of_lexeme? (lexeme?_placeholder n hrest)

/-- A piece that begins with a digit is an integer. -/
theorem piece?_digit {d : Char} (h : isDigit d = true) (text : List Char) :
    piece? (d :: text) = number? (d :: text) := by
  have hdigit : ∀ n < 58, isDigit (Char.ofNat n) = true → Char.ofNat n ∈ "0123456789".toList := by
    decide
  have hbound : d.toNat < 58 := by
    simp only [isDigit, Bool.and_eq_true, decide_eq_true_eq, Char.le_def,
      UInt32.le_iff_toNat_le] at h
    exact Nat.lt_succ_of_le h.2
  have hmem := hdigit d.toNat hbound
  rw [Char.ofNat_toNat] at hmem
  have hcases := hmem h
  simp only [String.reduceToList, List.mem_cons, List.not_mem_nil, or_false] at hcases
  rcases hcases with rfl | rfl | rfl | rfl | rfl | rfl | rfl | rfl | rfl | rfl <;> rfl

/-- An integer is one piece if neither a letter nor a decimal point follows it. -/
theorem cutInto_number (n : Nat) : CutInto Ends (Nat.toDigits 10 n) [.sign (.number n)] := by
  refine cutInto_of_piece? fun rest hrest => ?_
  have hdigits : ∀ c ∈ Nat.toDigits 10 n, isDigit c = true := fun c hc => isDigit_of_mem_toDigits hc
  have hend : rest.head?.any (fun c => isWordChar c || c == '.') = false := by
    cases rest with
    | nil => rfl
    | cons c rest => rcases hrest c rfl with rfl | rfl | rfl <;> rfl
  have hpiece : piece? (Nat.toDigits 10 n ++ rest) = number? (Nat.toDigits 10 n ++ rest) := by
    cases htext : Nat.toDigits 10 n with
    | nil => exact absurd htext Nat.toDigits_ne_nil
    | cons d ds => exact piece?_digit (hdigits d (by rw [htext]; exact List.mem_cons_self)) _
  have hnumber : Nat.ofDigitChars 10 (Nat.toDigits 10 n) 0 = n := Nat.ofDigitChars_ten_toDigits
  have hsome : (Nat.toDigits 10 n).isEmpty = false :=
    List.isEmpty_eq_false_iff.mpr Nat.toDigits_ne_nil
  rw [hpiece, number?, takeWhile_append_of_run hdigits hrest.noDigitFirst,
    dropWhile_append_of_run hdigits hrest.noDigitFirst]
  simp only [hsome, hend, hnumber, Bool.or_self, Bool.false_eq_true, if_false]
  rfl

/-! ## Words -/

/-- The places of words with single blanks between them. -/
def phrase (words : String) : List Place :=
  (words.toList.splitOn ' ').map fun letters => .sign (.lexeme (.word letters))

/-- A word is one piece. -/
theorem cutInto_word {letters : List Char} (h : isWord letters = true) :
    CutInto EndsName letters [.sign (.lexeme (.word letters))] :=
  cutInto_of_piece? fun _ hrest => piece?_of_lexeme? (lexeme?_word h hrest)

/-- Words with single blanks between them are a piece each. -/
theorem cutInto_phrase (words : String) (h : (words.toList.splitOn ' ').all isWord = true) :
    CutInto EndsName words.toList (phrase words) := by
  have hparts : ∀ parts : List (List Char), parts.all isWord = true →
      CutInto EndsName ([' '].intercalate parts)
        (parts.map fun letters => .sign (.lexeme (.word letters))) := by
    intro parts hwords
    induction parts with
    | nil => exact CutInto.nil EndsName
    | cons letters parts ih =>
      rw [List.all_cons, Bool.and_eq_true] at hwords
      have hfirst := cutInto_word hwords.1
      cases parts with
      | nil => simpa using hfirst
      | cons next parts =>
        rw [List.intercalate_cons_cons, List.append_assoc]
        exact hfirst.append (ih hwords.2).space fun _ _ => endsName_of (by decide) _
  have htext : [' '].intercalate (words.toList.splitOn ' ') = words.toList :=
    List.intercalate_splitOn ' '
  rw [← htext]
  exact hparts _ h

/-- Behind words and a blank anything may follow. -/
theorem cutInto_phrase_space (words : String)
    (h : (words.toList.splitOn ' ').all isWord = true) (hbehind : CutInto After behind others) :
    CutInto After (words.toList ++ ' ' :: behind) (phrase words ++ others) :=
  (cutInto_phrase words h).append hbehind.space fun _ _ => endsName_of (by decide) _

/-- Words between blanks. -/
theorem cutInto_keyword (words : String) (h : (words.toList.splitOn ' ').all isWord = true) :
    CutInto Anything (' ' :: (words.toList ++ [' '])) (phrase words) := by
  have hwords := (cutInto_phrase_space words h (.nil Anything)).space
  rwa [List.append_nil] at hwords

/-! ## Lists and clauses -/

/-- A text in front of which a name ends as it does in front of what follows the text. -/
def EndsBefore (text : List Char) : Prop := ∀ rest, Ends rest → Ends (text ++ rest)

/-- Nothing leaves what follows as it is. -/
theorem endsBefore_nil : EndsBefore [] := fun _ hrest => hrest

/-- A text that begins with a blank, a parenthesis or a comma ends what stands before it. -/
theorem endsBefore_cons {c : Char} (h : c = ' ' ∨ c = ')' ∨ c = ',') (text : List Char) :
    EndsBefore (c :: text) := fun _ _ => ends_cons h

/-- Two texts that end what stands before them do so one behind the other. -/
theorem EndsBefore.append {s t : List Char} (hs : EndsBefore s) (ht : EndsBefore t) :
    EndsBefore (s ++ t) := by
  intro rest hrest
  rw [List.append_assoc]
  exact hs _ (ht rest hrest)

/-- Two texts one behind the other, if the second ends the first. -/
theorem CutInto.append_ends (h : CutInto Ends text places) (hbehind : CutInto Ends behind others)
    (hends : EndsBefore behind) : CutInto Ends (text ++ behind) (places ++ others) :=
  h.append hbehind hends

/-- The places of a list whose items are separated by commas. -/
def listed {α : Type} (item : α → List Place) (items : List α) : List Place :=
  [.sign .comma].intercalate (items.map item)

/-- A list with commas between its items. -/
theorem cutInto_separated {α : Type} {text : α → List Char} {item : α → List Place}
    (h : ∀ a, CutInto Ends (text a) (item a)) (items : List α) :
    CutInto Ends (separated ", " (items.map text)) (listed item items) := by
  induction items with
  | nil => exact CutInto.nil Ends
  | cons a items ih =>
    cases items with
    | nil => simpa [separated, listed] using h a
    | cons b items =>
      have hplaces : listed item (a :: b :: items) =
          item a ++ .sign .comma :: listed item (b :: items) := by
        simp [listed, List.intercalate_cons_cons]
      rw [separated_cons, listTail, hplaces]
      exact (h a).append (ih.space.sign fun _ => rfl) fun _ _ => ends_cons (by decide)

/-- The places of a clause that may be missing, behind those of its keyword. -/
def clausePlaces {α : Type} (keyword : List Place) (item : α → List Place) : Option α → List Place
  | some a => keyword ++ item a
  | none => []

/-- A clause that may be missing is cut if its keyword is. -/
theorem cutInto_clauseSql {α : Type} {text : α → List Char} {item : α → List Place}
    (keyword : String) (hkeyword : CutInto Anything keyword.toList places)
    (h : ∀ a, CutInto After (text a) (item a)) (clause : Option α) :
    CutInto After (clauseSql keyword (clause.map text)) (clausePlaces places item clause) := by
  cases clause with
  | none => exact CutInto.nil After
  | some a => exact hkeyword.append_free (h a)

/-- A clause ends what stands before it if its keyword does, also where it is missing. -/
theorem endsBefore_clauseSql (keyword : String) (h : ∀ text, EndsBefore (keyword.toList ++ text))
    (clause : Option (List Char)) : EndsBefore (clauseSql keyword clause) := by
  cases clause with
  | none => exact endsBefore_nil
  | some text => exact h text

/-- Texts one behind the other end what stands before them. -/
theorem endsBefore_flatMap {α : Type} {text : α → List Char} (h : ∀ a, EndsBefore (text a))
    (items : List α) : EndsBefore (items.flatMap text) := by
  induction items with
  | nil => exact endsBefore_nil
  | cons a items ih =>
    rw [List.flatMap_cons]
    exact (h a).append ih

/-- Texts one behind the other are cut one after the other. -/
theorem cutInto_flatMap {α : Type} {text : α → List Char} {item : α → List Place}
    (h : ∀ a, CutInto Ends (text a) (item a)) (hends : ∀ a, EndsBefore (text a)) (items : List α) :
    CutInto Ends (items.flatMap text) (items.flatMap item) := by
  induction items with
  | nil => exact CutInto.nil Ends
  | cons a items ih =>
    rw [List.flatMap_cons, List.flatMap_cons]
    exact (h a).append_ends ih (endsBefore_flatMap hends items)

/-! ## Names read at their places -/

/-- The name that a piece stands for, if it is none of the words. -/
def Piece.name? (words : List String) : Piece → Option String
  | .lexeme found => found.name? words
  | _ => none

/-- Whether a piece is read as what stands at a place: a name as exactly this name, anything else as
the piece it is. -/
def Place.ReadAs (words : List String) : Place → Piece → Prop
  | .name text, piece => piece.name? words = some text
  | .sign found, piece => piece = found

/-- How a piece at a place is read: as what stands there, unless this is an overlooked name, which
is read as no name. -/
def Place.ReadBy (words : List String) : Place → Piece → Prop
  | .name text, piece => piece.name? words = if overlooked words text then none else some text
  | .sign found, piece => piece = found

section NamesRead

variable {words : List String}

/-- A name is read as itself at its place, unless it is overlooked. -/
theorem name?_piece (hwords : ∀ word ∈ words, IsGrammarWord word) (name : String) :
    (Place.name name).piece.name? words = if overlooked words name then none else some name :=
  (name?_nameLexeme hwords name).trans (unlessOverlooked_singleton name _)

/-- What a place is written as is read as what stands there, or as no name if this is an overlooked
name. -/
theorem Place.readBy_piece (hwords : ∀ word ∈ words, IsGrammarWord word) (place : Place) :
    place.ReadBy words place.piece := by
  cases place with
  | name text => exact name?_piece hwords text
  | sign found => rfl

/-- What a place is written as is read as what stands there, unless this is an overlooked name. -/
theorem Place.readAs_piece_iff (hwords : ∀ word ∈ words, IsGrammarWord word) (place : Place) :
    place.ReadAs words place.piece ↔ ∀ name ∈ place.name?, overlooked words name = false := by
  cases place with
  | sign found => exact iff_of_true rfl nofun
  | name text =>
    simp only [ReadAs, name?_piece hwords, name?, Option.mem_def, Option.some.injEq, forall_eq']
    cases overlooked words text <;> simp

end NamesRead

end TypedQuery.Sql.Reader
