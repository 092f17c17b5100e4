import TypedQuery.Proofs.Sql.Placeholder

/-!
# A reader of expressions

Expressions as SQL reads them, knowing nothing of how filters are written: a text is cut into
lexemes from the left, and operators group by how tightly they bind. `OR` binds least tightly, then
`AND`, then equality, `IS` and `LIKE`, then the inequalities; operators that bind alike group to the
left, and parentheses override all of this. Of SQL's operators these are the ones that conditions
are written with; the reader stops in front of any other, as it does in front of everything that
goes on an expression no further, and returns what is left with the expression.

In double quotes every text is a name, its quotes doubled. A bare word is a name unless it is one of
the words that the grammar takes as keywords only, the words of operators that the reader stops at
among them. Which words these are is a parameter of the reader. `lexeme?_identifier` says how
written names are taken off, whatever follows them.
-/

set_option autoImplicit false

namespace TypedQuery.Sql.Reader

open TypedQuery.Text

/-! ## Expressions -/

/-- The operators that conditions are written with. -/
inductive Operator where
  | or
  | and
  | eq
  | ne
  | is
  | isNot
  | like
  | lt
  | gt
  | le
  | ge
  deriving DecidableEq, Repr

/-- How tightly an operator binds. -/
def Operator.level : Operator → Nat
  | .or => 0
  | .and => 1
  | .eq | .ne | .is | .isNot | .like => 2
  | .lt | .gt | .le | .ge => 3

/-- What an expression says. -/
inductive Expression where
  | column (table : Option String) (name : String)
  | placeholder (number : Nat)
  | null
  | call (function : String) (distinct : Bool) (argument : Expression)
  | binary (op : Operator) (left right : Expression)
  deriving DecidableEq, Repr

/-! ## Lexemes -/

/-- A word, a quoted name, a placeholder or a sign of an expression. -/
inductive Lexeme where
  | word (letters : List Char)
  | quoted (name : List Char)
  | placeholder (number : Nat)
  | comparison (op : Operator)
  | dot
  | opening
  | closing
  deriving DecidableEq, Repr

/-- A character between lexemes. -/
def isSpace (c : Char) : Bool := isBlank c || c == '\x0c'

/-- A character of a word: an ASCII letter or digit, an underscore, a dollar sign, or anything that
is not ASCII. -/
def isWordChar (c : Char) : Bool := c.isAlphanum || c == '_' || c == '$' || 0x80 ≤ c.toNat

/-- A character that a word begins with: no digit and no dollar sign. -/
def isWordStart (c : Char) : Bool := isWordChar c && !isDigit c && c != '$'

/-- The name in front of the first quote that is not doubled, and what follows the quote. -/
def closeQuote : List Char → Option (List Char × List Char)
  | [] => none
  | c :: cs =>
    if c = '"' then
      match cs with
      | [] => some ([], [])
      | d :: rest =>
        if d = '"' then (closeQuote rest).map fun (name, rest) => ('"' :: name, rest)
        else some ([], d :: rest)
    else (closeQuote cs).map fun (name, rest) => (c :: name, rest)

/-- The first lexeme of a text, if it is one of an expression, and what follows it. -/
def lexeme? (text : List Char) : Option (Lexeme × List Char) :=
  match text.dropWhile isSpace with
  | [] => none
  | c :: cs =>
    if isWordStart c then
      some (.word (c :: cs.takeWhile isWordChar), cs.dropWhile isWordChar)
    else
      match c, cs with
      | '(', rest => some (.opening, rest)
      | ')', rest => some (.closing, rest)
      | '.', rest => some (.dot, rest)
      | '"', rest => (closeQuote rest).map fun (name, rest) => (.quoted name, rest)
      | '?', rest =>
        match rest.takeWhile isDigit with
        | [] => none
        | digits => some (.placeholder (Nat.ofDigitChars 10 digits 0), rest.dropWhile isDigit)
      | '=', '=' :: rest => some (.comparison .eq, rest)
      | '=', rest => some (.comparison .eq, rest)
      | '!', '=' :: rest => some (.comparison .ne, rest)
      | '<', '>' :: rest => some (.comparison .ne, rest)
      | '<', '=' :: rest => some (.comparison .le, rest)
      | '<', rest => some (.comparison .lt, rest)
      | '>', '=' :: rest => some (.comparison .ge, rest)
      | '>', rest => some (.comparison .gt, rest)
      | _, _ => none

/-- Whether a word is this keyword, in whatever case. -/
def isKeyword (keyword : String) (letters : List Char) : Bool :=
  letters.map lowerAscii == keyword.toList

/-- What follows a keyword, if a text begins with it. -/
def keyword? (keyword : String) (text : List Char) : Option (List Char) :=
  match lexeme? text with
  | some (.word letters, rest) => if isKeyword keyword letters then some rest else none
  | _ => none

/-- What follows a closing parenthesis, if a text begins with one. -/
def closing? (text : List Char) : Option (List Char) :=
  match lexeme? text with
  | some (.closing, rest) => some rest
  | _ => none

/-- The operator that a text behind `IS` makes of it, and what follows it. -/
def afterIs (text : List Char) : Operator × List Char :=
  match keyword? "not" text with
  | some rest => (.isNot, rest)
  | none => (.is, text)

/-- The operator that a text begins with, and what follows it. -/
def operator? (text : List Char) : Option (Operator × List Char) :=
  match lexeme? text with
  | some (.comparison op, rest) => some (op, rest)
  | some (.word letters, rest) =>
    if isKeyword "or" letters then some (.or, rest)
    else if isKeyword "and" letters then some (.and, rest)
    else if isKeyword "like" letters then some (.like, rest)
    else if isKeyword "is" letters then some (afterIs rest)
    else none
  | _ => none

/-- Whether a lexeme is the literal NULL. -/
def Lexeme.isNull : Lexeme → Bool
  | .word letters => isKeyword "null" letters
  | _ => false

/-- The name that a lexeme stands for, if it is none of the words. -/
def Lexeme.name? (words : List String) : Lexeme → Option String
  | .word letters =>
    if words.any fun word => isKeyword word letters then none else some (String.ofList letters)
  | .quoted name => some (String.ofList name)
  | _ => none

/-! ## The reader -/

mutual

/-- The longest expression at the beginning of a text whose operators, outside of parentheses, bind
as tightly as the level or more so, and what follows it. -/
def readAt (words : List String) : Nat → Nat → List Char → Option (Expression × List Char)
  | 0, _, _ => none
  | fuel + 1, level, text =>
    (readPrimary words fuel text).bind fun (left, rest) => extend words fuel level left rest

/-- Goes on with the operators and operands that follow the expression `left`. -/
def extend (words : List String) :
    Nat → Nat → Expression → List Char → Option (Expression × List Char)
  | 0, _, _, _ => none
  | fuel + 1, level, left, text =>
    match operator? text with
    | none => some (left, text)
    | some (op, rest) =>
      if op.level < level then some (left, text)
      else
        (readAt words fuel (op.level + 1) rest).bind fun (right, rest) =>
          extend words fuel level (.binary op left right) rest

/-- An operand: a placeholder, a literal, a column, a call or an expression in parentheses. -/
def readPrimary (words : List String) : Nat → List Char → Option (Expression × List Char)
  | 0, _ => none
  | fuel + 1, text =>
    match lexeme? text with
    | none => none
    | some (.placeholder number, rest) => some (.placeholder number, rest)
    | some (.opening, rest) =>
      (readAt words fuel 0 rest).bind fun (e, rest) => (closing? rest).map fun rest => (e, rest)
    | some (lexeme, rest) =>
      if lexeme.isNull then some (.null, rest)
      else
        (lexeme.name? words).bind fun name =>
          match lexeme? rest with
          | some (.dot, rest) =>
            (lexeme? rest).bind fun (lexeme, rest) =>
              (lexeme.name? words).map fun column => (.column (some name) column, rest)
          | some (.opening, rest) =>
            let afterDistinct := keyword? "distinct" rest
            (readAt words fuel 0 (afterDistinct.getD rest)).bind fun (e, after) =>
              (closing? after).map fun after => (.call name afterDistinct.isSome e, after)
          | _ => some (.column none name, rest)

end

/-- The expression at the beginning of a text, and what follows it. Every lexeme takes a character
from the text, so that no more steps than these are needed. -/
def readExpression (words : List String) (text : List Char) : Option (Expression × List Char) :=
  readAt words (3 * text.length + 3) 0 text

/-! ## Reading lexemes -/

/-- A character that a name can have without quotes is one of a word. -/
theorem isWordChar_of_isNameChar {c : Char} (h : isNameChar c = true) : isWordChar c = true := by
  have hascii : ∀ n < 128, isNameChar (Char.ofNat n) = true → isWordChar (Char.ofNat n) = true := by
    decide +kernel
  by_cases hc : c.toNat < 128
  · have hchar := hascii c.toNat hc
    rw [Char.ofNat_toNat] at hchar
    exact hchar h
  · simp only [isWordChar, Bool.or_eq_true, decide_eq_true_eq]
    exact Or.inr (by omega)

/-- A word is not broken by blanks. -/
theorem isSpace_of_isWordChar {c : Char} (h : isWordChar c = true) : isSpace c = false := by
  by_contra hspace
  rw [Bool.not_eq_false, isSpace, isBlank] at hspace
  simp only [Bool.or_eq_true, beq_iff_eq] at hspace
  rcases hspace with (((rfl | rfl) | rfl) | rfl) | rfl <;> exact absurd h (by decide)

/-- Letters that make a word. -/
def isWord : List Char → Bool
  | [] => false
  | c :: cs => isWordStart c && cs.all isWordChar

/-- What ends a name, bare or quoted. -/
def EndsName (rest : List Char) : Prop := ∀ c ∈ rest.head?, isWordChar c = false ∧ c ≠ '"'

/-- A word is taken off up to its end. -/
theorem lexeme?_word {letters rest : List Char} (h : isWord letters = true)
    (hrest : EndsName rest) : lexeme? (letters ++ rest) = some (.word letters, rest) := by
  cases letters with
  | nil => cases h
  | cons c cs =>
    simp only [isWord, Bool.and_eq_true, List.all_eq_true] at h
    obtain ⟨hstart, hchars⟩ := h
    have hword : isWordChar c = true := by
      simp only [isWordStart, Bool.and_eq_true] at hstart
      exact hstart.1.1
    have hend : ∀ d ∈ rest.head?, isWordChar d = false := fun d hd => (hrest d hd).1
    have hspace : (c :: cs ++ rest).dropWhile isSpace = c :: (cs ++ rest) :=
      List.dropWhile_cons_of_neg (by rw [isSpace_of_isWordChar hword]; decide)
    simp only [lexeme?, hspace, hstart, if_true, takeWhile_append_of_run hchars hend,
      dropWhile_append_of_run hchars hend]

/-- A character that is no quote belongs to the name. -/
theorem closeQuote_cons {c : Char} (h : c ≠ '"') (text : List Char) :
    closeQuote (c :: text) = (closeQuote text).map fun (name, rest) => (c :: name, rest) := by
  cases text <;> simp [closeQuote, h]

/-- A name whose quotes are doubled is closed by the first one that is not. -/
theorem closeQuote_doubleQuotes (name : List Char) {rest : List Char}
    (hrest : ∀ c ∈ rest.head?, c ≠ '"') :
    closeQuote (doubleQuotes name ++ '"' :: rest) = some (name, rest) := by
  induction name with
  | nil =>
    cases rest with
    | nil => rfl
    | cons c rest => simp [doubleQuotes, closeQuote, hrest c rfl]
  | cons c name ih =>
    by_cases hc : c = '"'
    · simp [doubleQuotes, closeQuote, hc, ih]
    · rw [doubleQuotes, if_neg hc, List.cons_append, closeQuote_cons hc, ih]
      rfl

/-- A quoted name is taken off with its quotes undone. -/
theorem lexeme?_quoted (name : List Char) {rest : List Char} (hrest : EndsName rest) :
    lexeme? (quoted name ++ rest) = some (.quoted name, rest) := by
  have hclose := closeQuote_doubleQuotes name fun c hc => (hrest c hc).2
  have hlexeme : lexeme? (quoted name ++ rest) =
      (closeQuote (doubleQuotes name ++ '"' :: rest)).map fun (name, rest) =>
        (.quoted name, rest) := by
    rw [quoted, List.append_assoc]
    rfl
  rw [hlexeme, hclose]
  rfl

/-- A placeholder is taken off with its number. -/
theorem lexeme?_placeholder (n : Nat) {rest : List Char} (hrest : NoDigitFirst rest) :
    lexeme? ('?' :: Nat.toDigits 10 n ++ rest) = some (.placeholder n, rest) := by
  have hdigits : ∀ c ∈ Nat.toDigits 10 n, isDigit c = true := fun c hc => isDigit_of_mem_toDigits hc
  have htake := takeWhile_append_of_run hdigits hrest
  have hdrop := dropWhile_append_of_run hdigits hrest
  have hlexeme : lexeme? ('?' :: Nat.toDigits 10 n ++ rest) =
      match (Nat.toDigits 10 n ++ rest).takeWhile isDigit with
      | [] => none
      | digits => some (.placeholder (Nat.ofDigitChars 10 digits 0),
          (Nat.toDigits 10 n ++ rest).dropWhile isDigit) := rfl
  rw [hlexeme, htake, hdrop]
  have hnumber : Nat.ofDigitChars 10 (Nat.toDigits 10 n) 0 = n := Nat.ofDigitChars_ten_toDigits
  cases hn : Nat.toDigits 10 n with
  | nil => exact absurd hn Nat.toDigits_ne_nil
  | cons d ds =>
    rw [hn] at hnumber
    exact congrArg (fun n => some (Lexeme.placeholder n, rest)) hnumber

/-! ## Reading names -/

/-- A bare word is none of the reserved words in any case. -/
theorem isKeyword_of_bareWord {cs : List Char} (h : BareWord cs) {word : String}
    (hword : word ∈ reservedWords) : isKeyword word cs = false := by
  by_contra hkeyword
  rw [Bool.not_eq_false, isKeyword, beq_iff_eq] at hkeyword
  have hascii : ∀ word ∈ reservedWords, '\u212a' ∉ word.toList := by decide +kernel
  have hlower : cs.map lowerToAscii = cs.map lowerAscii := by
    refine List.map_congr_left fun c hc => ?_
    have hne : c ≠ '\u212a' := by
      rintro rfl
      have hmem : lowerAscii '\u212a' ∈ word.toList := hkeyword ▸ List.mem_map_of_mem hc
      exact hascii word hword hmem
    rw [lowerToAscii, if_neg (by simpa using hne)]
  have hreserved : isReserved cs = true := by
    rw [isReserved, List.any_eq_true]
    exact ⟨word, hword, by rw [beq_iff_eq, hlower, hkeyword]⟩
  rw [h.notReserved] at hreserved
  cases hreserved

/-- A name that needs no quotes is a word. -/
theorem isWord_of_bareWord {cs : List Char} (h : BareWord cs) : isWord cs = true := by
  cases cs with
  | nil => exact absurd rfl h.nonempty
  | cons c cs =>
    have hc : isNameChar c = true := h.nameChars c List.mem_cons_self
    have hdigit : isDigit c = false := h.headNotDigit c rfl
    have hdollar : c ≠ '$' := by
      rintro rfl
      exact absurd hc (by decide)
    have hchars : ∀ d ∈ cs, isWordChar d = true := fun d hd =>
      isWordChar_of_isNameChar (h.nameChars d (List.mem_cons_of_mem c hd))
    simp only [isWord, isWordStart, isWordChar_of_isNameChar hc, hdigit, Bool.not_false,
      bne_iff_ne.mpr hdollar, Bool.and_true, Bool.true_and, List.all_eq_true]
    exact hchars

/-- The lexeme that a name is written as: a word, or the name between quotes if it needs them. -/
def nameLexeme (name : String) : Lexeme :=
  if needsQuotes name.toList then .quoted name.toList else .word name.toList

/-- A written name is taken off as one lexeme, whatever its characters are. -/
theorem lexeme?_identifier (name : String) {rest : List Char} (hrest : EndsName rest) :
    lexeme? (identifier name ++ rest) = some (nameLexeme name, rest) := by
  cases hquotes : needsQuotes name.toList with
  | true =>
    rw [identifier, nameLexeme, hquotes]
    exact lexeme?_quoted name.toList hrest
  | false =>
    have hbare := bareWord_of_needsQuotes_eq_false hquotes
    rw [identifier, nameLexeme, hquotes]
    exact lexeme?_word (isWord_of_bareWord hbare) hrest

variable {words : List String}

/-- A written name is none of the reserved words: it stands between quotes if it is one. -/
theorem isKeyword_of_nameLexeme {keyword : String} (hkeyword : keyword ∈ reservedWords)
    (name : String) : ∀ letters, nameLexeme name = .word letters →
      isKeyword keyword letters = false := by
  intro letters hletters
  cases hquotes : needsQuotes name.toList with
  | true =>
    rw [nameLexeme, hquotes] at hletters
    cases hletters
  | false =>
    rw [nameLexeme, hquotes] at hletters
    cases hletters
    exact isKeyword_of_bareWord (bareWord_of_needsQuotes_eq_false hquotes) hkeyword

/-- A name is not taken for a keyword, whatever its letters are. -/
theorem keyword?_identifier {keyword : String} (hkeyword : keyword ∈ reservedWords) (name : String)
    {rest : List Char} (hrest : EndsName rest) :
    keyword? keyword (identifier name ++ rest) = none := by
  have hletters := isKeyword_of_nameLexeme hkeyword name
  rw [keyword?, lexeme?_identifier name hrest]
  cases hlexeme : nameLexeme name with
  | word letters => simp only [hletters letters hlexeme, Bool.false_eq_true, if_false]
  | _ => rfl

/-- What an operand that begins with a name is, is told from the lexeme behind the name. -/
theorem readPrimary_identifier (name : String) {rest : List Char} (hrest : EndsName rest)
    (fuel : Nat) :
    readPrimary words (fuel + 1) (identifier name ++ rest) =
      ((nameLexeme name).name? words).bind fun name =>
        match lexeme? rest with
        | some (.dot, rest) =>
          (lexeme? rest).bind fun (lexeme, rest) =>
            (lexeme.name? words).map fun column => (.column (some name) column, rest)
        | some (.opening, rest) =>
          (readAt words fuel 0 ((keyword? "distinct" rest).getD rest)).bind fun (e, after) =>
            (closing? after).map fun after =>
              (.call name (keyword? "distinct" rest).isSome e, after)
        | _ => some (.column none name, rest) := by
  have hnull : ∀ letters, nameLexeme name = .word letters → isKeyword "null" letters = false :=
    isKeyword_of_nameLexeme (by decide) name
  have hlexeme := lexeme?_identifier name hrest
  cases hquotes : needsQuotes name.toList with
  | true =>
    rw [nameLexeme, hquotes] at hlexeme ⊢
    simp only [readPrimary, hlexeme]
    rfl
  | false =>
    rw [nameLexeme, hquotes] at hlexeme hnull ⊢
    have hnull := hnull _ rfl
    simp only [readPrimary, hlexeme]
    simp [Lexeme.isNull, hnull]

/-- What begins with neither a character of a word nor a quote ends a name. -/
theorem endsName_of {c : Char} (h : isWordChar c = false ∧ c ≠ '"') (rest : List Char) :
    EndsName (c :: rest) := by
  rintro d ⟨⟩
  exact h

/-! ## Spaces and ends -/

/-- A blank in front of a lexeme is skipped. -/
theorem lexeme?_space (text : List Char) : lexeme? (' ' :: text) = lexeme? text := rfl

/-- A blank in front of an operand is skipped. -/
theorem readPrimary_space (words : List String) (fuel : Nat) (text : List Char) :
    readPrimary words fuel (' ' :: text) = readPrimary words fuel text := by
  cases fuel with
  | zero => rfl
  | succ fuel => rw [readPrimary, readPrimary, lexeme?_space]

/-- A blank in front of an expression is skipped. -/
theorem readAt_space (words : List String) (fuel level : Nat) (text : List Char) :
    readAt words fuel level (' ' :: text) = readAt words fuel level text := by
  cases fuel with
  | zero => rfl
  | succ fuel => rw [readAt, readAt, readPrimary_space]

/-- Whether what follows an expression does not go on it at this level. -/
def Stops (level : Nat) (rest : List Char) : Prop :=
  ∀ op after, operator? rest = some (op, after) → op.level < level

/-- An expression stops, at every level, where no operator follows. -/
theorem stops_of_none {rest : List Char} (h : operator? rest = none) (level : Nat) :
    Stops level rest := by
  intro op after hop
  rw [h] at hop
  cases hop

/-- What stops an expression stops one whose operators bind more tightly. -/
theorem Stops.mono {level level' : Nat} {rest : List Char} (h : Stops level rest)
    (hle : level ≤ level') : Stops level' rest :=
  fun op after hop => Nat.lt_of_lt_of_le (h op after hop) hle

/-- An expression is left as it is where it stops. -/
theorem extend_of_stops {level : Nat} {rest : List Char} (h : Stops level rest) (fuel : Nat)
    (left : Expression) : extend words (fuel + 1) level left rest = some (left, rest) := by
  rw [extend]
  cases hop : operator? rest with
  | none => rfl
  | some found =>
    obtain ⟨op, after⟩ := found
    exact if_pos (h op after hop)

end TypedQuery.Sql.Reader
