import TypedQuery.Proofs.Sql.Reader

/-!
# Keywords in the places of names

The grammar takes some words as keywords only, in any case of their letters, so that none of them
can stand bare as a name. Which words these are is a matter of the grammar, and `words` stands for
them. A name is written between quotes if it is one of the reserved words, so it is taken for a
keyword exactly if it is one of the words that are not among those: `overlooked` finds these names,
and every other name is read as itself (`name?_nameLexeme`). The words of `unlistedWords` are known
to be such. Of an expression with an overlooked name nothing is read at all; `unlessOverlooked` says
so of a text with any list of names, and goes through the steps of a reader.
-/

set_option autoImplicit false

namespace TypedQuery.Sql.Reader

open TypedQuery.Text

/-- A word as the grammar has it: small letters and underscores. -/
def IsGrammarWord (word : String) : Prop :=
  word ≠ "" ∧ ∀ c ∈ word.toList, 'a' ≤ c ∧ c ≤ 'z' ∨ c = '_'

instance (word : String) : Decidable (IsGrammarWord word) :=
  decidable_of_iff
    (word ≠ "" ∧ (word.toList.all fun c => 'a' ≤ c && c ≤ 'z' || c == '_') = true)
    (by simp [IsGrammarWord])

/-- Words that the grammar takes as keywords only, and that are not written between quotes. -/
def unlistedWords : List String :=
  ["add", "alter", "commit", "escape", "isnull", "notnull", "returning", "to", "transaction"]

/-- Whether a name is one of the words, in any case, that is not among the reserved words. -/
def overlooked (words : List String) (name : String) : Bool :=
  words.any fun word => isKeyword word name.toList && !reservedWords.contains word

/-- What is read of a text with these names, if `read` is what is meant: nothing if a name in it is
overlooked. -/
def unlessOverlooked {α : Type} (words names : List String) (read : Option α) : Option α :=
  if names.any (overlooked words) then none else read

/-! ## Names that are keywords -/

variable {words : List String}

/-- A character whose small form stands in a word of the grammar is a letter of a bare name. -/
theorem nameChar_of_lowerAscii {c : Char}
    (h : 'a' ≤ lowerAscii c ∧ lowerAscii c ≤ 'z' ∨ lowerAscii c = '_') :
    isNameChar c = true ∧ isNumeric c = false ∧ lowerToAscii c = lowerAscii c := by
  have hascii : ∀ n < 128,
      'a' ≤ lowerAscii (Char.ofNat n) ∧ lowerAscii (Char.ofNat n) ≤ 'z' ∨
        lowerAscii (Char.ofNat n) = '_' →
      isNameChar (Char.ofNat n) = true ∧ isNumeric (Char.ofNat n) = false ∧
        lowerToAscii (Char.ofNat n) = lowerAscii (Char.ofNat n) := by
    decide +kernel
  have hbound : ∀ d : Char, d ≤ 'z' → c = d → c.toNat < 128 := by
    rintro d hd rfl
    simp only [Char.le_def, UInt32.le_iff_toNat_le] at hd
    exact Nat.lt_of_le_of_lt hd (by decide)
  have hsmall : c.toNat < 128 := by
    unfold lowerAscii at h
    split at h
    · next hcapital =>
      simp only [Bool.and_eq_true, decide_eq_true_eq] at hcapital
      exact hbound c (Std.le_trans hcapital.2 (by decide)) rfl
    · rcases h with h | h
      · exact hbound c h.2 rfl
      · exact hbound '_' (by decide) h
  have hchar := hascii c.toNat hsmall
  rw [Char.ofNat_toNat] at hchar
  exact hchar h

/-- A name that is a word of the grammar in some case stands bare if the word is not reserved. -/
theorem needsQuotes_of_isKeyword {word name : String} (hword : IsGrammarWord word)
    (hname : isKeyword word name.toList = true) (hlisted : word ∉ reservedWords) :
    needsQuotes name.toList = false := by
  obtain ⟨hne, hletters⟩ := hword
  have hlower : name.toList.map lowerAscii = word.toList := eq_of_beq hname
  have hchars : ∀ c ∈ name.toList,
      isNameChar c = true ∧ isNumeric c = false ∧ lowerToAscii c = lowerAscii c :=
    fun c hc => nameChar_of_lowerAscii (hletters _ (hlower ▸ List.mem_map_of_mem hc))
  have hempty : name.toList.isEmpty = false := by
    cases htext : name.toList with
    | nil =>
      rw [htext] at hlower
      exact absurd (String.toList_eq_nil_iff.mp hlower.symm) hne
    | cons c cs => rfl
  have hreserved : isReserved name.toList = false := by
    have hsame : name.toList.map lowerToAscii = word.toList :=
      (List.map_congr_left fun c hc => (hchars c hc).2.2).trans hlower
    refine List.any_eq_false.mpr fun other hother heq => ?_
    rw [beq_iff_eq, hsame, String.toList_inj] at heq
    exact hlisted (heq ▸ hother)
  have hnone : (name.toList.any fun c => !isNameChar c) = false :=
    List.any_eq_false.mpr fun c hc => by rw [(hchars c hc).1]; decide
  have hhead : (name.toList.head?.map isNumeric).getD false = false := by
    cases htext : name.toList with
    | nil => rfl
    | cons c cs => exact (hchars c (by rw [htext]; exact List.mem_cons_self)).2.1
  rw [needsQuotes, hempty, hreserved, hnone, hhead]
  rfl

/-- A quoted name is not overlooked. -/
theorem overlooked_of_needsQuotes (hwords : ∀ word ∈ words, IsGrammarWord word) {name : String}
    (h : needsQuotes name.toList = true) : overlooked words name = false := by
  refine List.any_eq_false.mpr fun word hword hfound => ?_
  simp only [Bool.and_eq_true, Bool.not_eq_true', List.contains_eq_mem, decide_eq_false_iff_not]
    at hfound
  have hbare := needsQuotes_of_isKeyword (hwords word hword) hfound.1 hfound.2
  rw [h] at hbare
  cases hbare

/-- A bare name is overlooked exactly if it is one of the words. -/
theorem overlooked_of_bareWord {name : String} (h : BareWord name.toList) :
    overlooked words name = words.any fun word => isKeyword word name.toList := by
  unfold overlooked
  congr 1
  funext word
  by_cases hword : word ∈ reservedWords
  · rw [isKeyword_of_bareWord h hword]
    rfl
  · simp [hword]

/-- The unlisted words are overlooked in every case of their letters. -/
theorem overlooked_of_unlisted (hwords : ∀ word ∈ words, IsGrammarWord word)
    (hunlisted : unlistedWords ⊆ words) {word : String} (hword : word ∈ unlistedWords)
    {name : String} (hname : isKeyword word name.toList = true) :
    identifier name = name.toList ∧ overlooked words name = true := by
  have hnew : ∀ word ∈ unlistedWords, word ∉ reservedWords := by decide
  have hbare := needsQuotes_of_isKeyword (hwords word (hunlisted hword)) hname (hnew word hword)
  refine ⟨by rw [identifier, hbare]; rfl, List.any_eq_true.mpr ⟨word, hunlisted hword, ?_⟩⟩
  simp [hname, hnew word hword]

/-- No name is overlooked if every word is a reserved one. -/
theorem overlooked_reservedWords (name : String) : overlooked reservedWords name = false := by
  refine List.any_eq_false.mpr fun word hword => ?_
  simp [hword]

/-! ## Expressions with overlooked names -/

section UnlessOverlooked

variable {α β : Type} (names : List String)

/-- A text with a single name. -/
theorem unlessOverlooked_singleton (name : String) (read : Option α) :
    unlessOverlooked words [name] read = if overlooked words name then none else read := by
  simp only [unlessOverlooked, List.any_cons, List.any_nil, Bool.or_false]

/-- The names of two texts, one behind the other. -/
theorem unlessOverlooked_append (others : List String) (read : Option α) :
    unlessOverlooked words (names ++ others) read =
      unlessOverlooked words names (unlessOverlooked words others read) := by
  simp only [unlessOverlooked, List.any_append, Bool.or_eq_true, ite_or]

/-- What is done with an expression is done if none of its names is overlooked. -/
theorem unlessOverlooked_bind (read : Option α) (next : α → Option β) :
    (unlessOverlooked words names read).bind next =
      unlessOverlooked words names (read.bind next) := by
  unfold unlessOverlooked
  split <;> rfl

/-- What is made of an expression is made if none of its names is overlooked. -/
theorem unlessOverlooked_map (read : Option α) (next : α → β) :
    (unlessOverlooked words names read).map next =
      unlessOverlooked words names (read.map next) := by
  unfold unlessOverlooked
  split <;> rfl

/-- What is read at a level begins with an operand. -/
theorem readAt_of_primary {names : List String} {fuel : Nat} {text rest : List Char}
    {left : Expression}
    (h : readPrimary words fuel text = unlessOverlooked words names (some (left, rest)))
    (level : Nat) :
    readAt words (fuel + 1) level text =
      unlessOverlooked words names (extend words fuel level left rest) := by
  rw [readAt, h, unlessOverlooked_bind]
  rfl

/-- An operator that binds tightly enough goes on with an operand of the next level. -/
theorem extend_of_operator {names : List String} {fuel level : Nat} {text after rest : List Char}
    {op : Operator} {right : Expression} (hop : operator? text = some (op, after))
    (hlevel : level ≤ op.level)
    (hright : readAt words fuel (op.level + 1) after =
      unlessOverlooked words names (some (right, rest))) (left : Expression) :
    extend words (fuel + 1) level left text =
      unlessOverlooked words names (extend words fuel level (.binary op left right) rest) := by
  rw [extend, hop]
  simp only [if_neg (Nat.not_lt.mpr hlevel), hright, unlessOverlooked_bind, Option.bind_some]

end UnlessOverlooked

/-- A written name is read as itself, unless it is overlooked. -/
theorem name?_nameLexeme (hwords : ∀ word ∈ words, IsGrammarWord word) (name : String) :
    (nameLexeme name).name? words = unlessOverlooked words [name] (some name) := by
  rw [unlessOverlooked_singleton]
  cases hquotes : needsQuotes name.toList with
  | true =>
    rw [nameLexeme, hquotes, overlooked_of_needsQuotes hwords hquotes]
    exact congrArg some String.ofList_toList
  | false =>
    have hbare := bareWord_of_needsQuotes_eq_false hquotes
    rw [nameLexeme, hquotes]
    simp only [Lexeme.name?, overlooked_of_bareWord hbare, String.ofList_toList,
      Bool.false_eq_true, if_false]

/-- The name of a column behind the name of its table. -/
theorem readPrimary_column (hwords : ∀ word ∈ words, IsGrammarWord word) (table name : String)
    {rest : List Char} (hrest : EndsName rest) (fuel : Nat) :
    readPrimary words (fuel + 1) (identifier table ++ '.' :: (identifier name ++ rest)) =
      unlessOverlooked words [table, name] (some (.column (some table) name, rest)) := by
  have hdot : lexeme? ('.' :: (identifier name ++ rest)) =
    some (.dot, identifier name ++ rest) := rfl
  rw [readPrimary_identifier table (endsName_of (by decide) _), name?_nameLexeme hwords,
    unlessOverlooked_bind]
  simp only [hdot, lexeme?_identifier name hrest, Option.bind_some, name?_nameLexeme hwords,
    unlessOverlooked_map]
  exact (unlessOverlooked_append [table] [name] _).symm

end TypedQuery.Sql.Reader
