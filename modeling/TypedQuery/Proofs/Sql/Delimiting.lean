import TypedQuery.Proofs.Sql.Placeholder
import TypedQuery.Query.Rendering

/-!
# Where the pieces of a statement end

A statement is read from left to right, and each piece of it has to end where the next one begins.
`Delimits After text` says that this is so for the pieces that `text` writes: two equal texts that
begin with such pieces begin with the same one and go on in the same way, provided that what goes on
is of the kind `After`. The pieces are names, numbers and the words of operators; the combinators
are lists with a separator, lists without one, and clauses that may be missing. A missing clause is
told from a given one by the first word of what follows.
-/

set_option autoImplicit false

namespace TypedQuery.Sql

open TypedQuery.Text

/-- Pieces that end where a text of the kind `After` goes on. -/
def Delimits {α : Type} (After : List Char → Prop) (text : α → List Char) : Prop :=
  ∀ ⦃a b : α⦄ ⦃r s : List Char⦄, After r → After s → text a ++ r = text b ++ s → a = b ∧ r = s

/-- What is told where more may follow is told where less may. -/
theorem Delimits.mono {α : Type} {After After' : List Char → Prop} {text : α → List Char}
    (h : Delimits After text) (himp : ∀ r, After' r → After r) : Delimits After' text :=
  fun _ _ _ _ hr hs => h (himp _ hr) (himp _ hs)

/-- A piece is determined by its text alone. -/
theorem Delimits.inj {α : Type} {After : List Char → Prop} {text : α → List Char}
    (h : Delimits After text) (hnil : After []) {a b : α} (heq : text a = text b) : a = b :=
  (h hnil hnil (by rw [heq])).1

/-! ## What follows a piece -/

/-- An expression or a condition is followed by nothing, a space, a parenthesis or a comma. -/
def Ends (r : List Char) : Prop := ∀ c ∈ r.head?, c = ' ' ∨ c = ')' ∨ c = ','

/-- A list is not followed by a comma. -/
def Closes (r : List Char) : Prop := ∀ c ∈ r.head?, c = ' ' ∨ c = ')'

/-- An expression begins with a name, which may be quoted. -/
def Opens (t : List Char) : Prop := ∃ c ∈ t.head?, isNameChar c = true ∨ c = '"'

/-- A blank, a parenthesis or a comma ends anything. -/
theorem ends_cons {c : Char} {r : List Char} (h : c = ' ' ∨ c = ')' ∨ c = ',') :
    Ends (c :: r) := by
  rintro d ⟨⟩
  exact h

/-- A blank or a parenthesis closes a list. -/
theorem closes_cons {c : Char} {r : List Char} (h : c = ' ' ∨ c = ')') : Closes (c :: r) := by
  rintro d ⟨⟩
  exact h

/-- What closes a list ends its last item. -/
theorem Closes.ends {r : List Char} (h : Closes r) : Ends r := by
  intro c hc
  rcases h c hc with h | h
  · exact Or.inl h
  · exact Or.inr (Or.inl h)

/-- What ends anything ends a name. -/
theorem Ends.afterName {r : List Char} (h : Ends r) : AfterName r := by
  intro c hc
  rcases h c hc with rfl | rfl | rfl <;> decide

/-- What ends anything ends a number. -/
theorem Ends.noDigitFirst {r : List Char} (h : Ends r) : NoDigitFirst r := by
  intro c hc
  rcases h c hc with rfl | rfl | rfl <;> decide

/-- A name begins with one of its characters or with a quote. -/
theorem opens_cons {c : Char} {t : List Char} (h : isNameChar c = true ∨ c = '"') :
    Opens (c :: t) :=
  ⟨c, rfl, h⟩

/-- A text opens like its beginning. -/
theorem Opens.append {t : List Char} (h : Opens t) (r : List Char) : Opens (t ++ r) := by
  obtain ⟨c, hc, hopen⟩ := h
  refine ⟨c, ?_, hopen⟩
  rw [Option.mem_def] at hc ⊢
  rw [List.head?_append, hc]
  rfl

/-- An expression begins with no sign of any other kind. -/
theorem Opens.ne_cons {t : List Char} (h : Opens t) {c : Char} (r : List Char)
    (hname : isNameChar c = false) (hquote : c ≠ '"') : t ≠ c :: r := by
  rintro rfl
  obtain ⟨d, hd, hopen⟩ := h
  cases hd
  rcases hopen with h | h
  · rw [hname] at h
    cases h
  · exact hquote h

/-- What begins like a name does not close a list. -/
theorem Opens.not_closes {t : List Char} (h : Opens t) : ¬Closes t := by
  intro hcloses
  obtain ⟨c, hc, hopen⟩ := h
  rcases hcloses c hc with rfl | rfl <;> revert hopen <;> decide

/-! ## Names and numbers -/

/-- A name is told from its text. -/
theorem delimits_identifier : Delimits AfterName identifier :=
  fun _ _ _ _ hr hs heq => identifier_append_inj hr hs heq

/-- A written name begins like a name. -/
theorem opens_identifier (name : String) : Opens (identifier name) := by
  rcases identifier_cases name with ⟨hbare, heq⟩ | heq
  · rw [heq]
    cases hchars : name.toList with
    | nil => exact absurd hchars hbare.nonempty
    | cons c cs =>
      exact opens_cons (Or.inl (hbare.nameChars c (by simp [hchars])))
  · rw [heq]
    exact opens_cons (Or.inr rfl)

/-- A word that is followed by something else than a name is no beginning of a longer name. -/
theorem word_append_eq_identifier_append {w r s : List Char} {name : String}
    (hw : w.all isNameChar = true) (hne : w ≠ [])
    (hr : ∀ c ∈ r.head?, isNameChar c = false) (hs : AfterName s)
    (h : w ++ r = identifier name ++ s) : r = s := by
  have hchars : ∀ c ∈ w, isNameChar c = true := List.all_eq_true.mp hw
  rcases identifier_cases name with ⟨hbare, heq⟩ | heq
  · rw [heq] at h
    exact (append_inj_of_run isNameChar hchars hbare.nameChars hr (fun c hc => (hs c hc).1) h).2
  · cases w with
    | nil => exact absurd rfl hne
    | cons c w =>
      rw [heq] at h
      simp only [quoted, List.cons_append, List.cons.injEq] at h
      have hquote := hchars c List.mem_cons_self
      rw [h.1] at hquote
      exact absurd hquote (by decide)

/-- A number ends at the first character that is no digit. -/
theorem delimits_toDigits : Delimits NoDigitFirst (Nat.toDigits 10) := by
  intro a b r s hr hs heq
  have hdigits : ∀ n : Nat, ∀ c ∈ Nat.toDigits 10 n, isDigit c = true :=
    fun _ _ hc => isDigit_of_mem_toDigits hc
  obtain ⟨hnumber, hrest⟩ := append_inj_of_run isDigit (hdigits a) (hdigits b) hr hs heq
  have hvalue := congrArg (Nat.ofDigitChars 10 · 0) hnumber
  simp only [Nat.ofDigitChars_ten_toDigits] at hvalue
  exact ⟨hvalue, hrest⟩

/-! ## Words -/

/-- Words of which none is the beginning of another need nothing after them. -/
theorem delimits_of_prefixFree {α : Type} {w : α → List Char}
    (h : ∀ a b, w a <+: w b → a = b) : Delimits (fun _ => True) w := by
  intro a b r s _ _ heq
  have ha : w a <+: w a ++ r := List.prefix_append _ _
  have hb : w b <+: w a ++ r := heq ▸ List.prefix_append _ _
  have hab : a = b := by
    rcases List.prefix_or_prefix_of_prefix ha hb with hprefix | hprefix
    · exact h a b hprefix
    · exact (h b a hprefix).symm
  subst hab
  exact ⟨rfl, List.append_cancel_left heq⟩

/-- Words of which none is the beginning of another once a space is added. -/
theorem spaced_append_inj {α : Type} {w : α → List Char}
    (h : ∀ a b, w a ++ [' '] <+: w b ++ [' '] → a = b) {a b : α} {r s : List Char}
    (heq : w a ++ ' ' :: r = w b ++ ' ' :: s) : a = b ∧ r = s := by
  refine delimits_of_prefixFree h trivial trivial ?_
  rw [List.append_assoc, List.append_assoc]
  exact heq

/-! ## Lists -/

/-- What goes on a list: nothing, or a comma and the rest of it. -/
def listTail {α : Type} (text : α → List Char) : List α → List Char
  | [] => []
  | x :: xs => ", ".toList ++ separated ", " ((x :: xs).map text)

/-- A list is its first item and a tail. -/
theorem separated_cons {α : Type} (text : α → List Char) (x : α) (xs : List α) :
    separated ", " ((x :: xs).map text) = text x ++ listTail text xs := by
  cases xs with
  | nil => simp [separated, listTail]
  | cons y ys => simp [separated, listTail, List.intercalate_cons_cons]

/-- A list ends where something follows that is neither a comma nor the beginning of an item. -/
theorem delimits_separated {α : Type} {After : List Char → Prop} {text : α → List Char}
    (hitem : Delimits (fun r => (∃ x, r = ',' :: x) ∨ After r) text)
    (hcomma : ∀ x, ¬After (',' :: x)) (hopen : ∀ a x, ¬After (text a ++ x)) :
    Delimits After fun items : List α => separated ", " (items.map text) := by
  have htail : ∀ {xs : List α} {r : List Char}, After r →
      (∃ x, listTail text xs ++ r = ',' :: x) ∨ After (listTail text xs ++ r) := by
    intro xs r hr
    cases xs with
    | nil => exact Or.inr hr
    | cons x xs => exact Or.inl ⟨_, rfl⟩
  -- Induction on one list, the other one split along; where one ends before the other, what follows
  -- the shorter would be a comma or the beginning of an item.
  intro xs
  induction xs with
  | nil =>
    intro ys r s hr hs heq
    cases ys with
    | nil => exact ⟨rfl, heq⟩
    | cons y ys =>
      dsimp only at heq
      rw [separated_cons, List.append_assoc] at heq
      have hfirst : r = text y ++ (listTail text ys ++ s) := heq
      rw [hfirst] at hr
      exact absurd hr (hopen y _)
  | cons x xs ih =>
    intro ys r s hr hs heq
    cases ys with
    | nil =>
      dsimp only at heq
      rw [separated_cons, List.append_assoc] at heq
      have hfirst : text x ++ (listTail text xs ++ r) = s := heq
      rw [← hfirst] at hs
      exact absurd hs (hopen x _)
    | cons y ys =>
      dsimp only at heq
      rw [separated_cons, separated_cons, List.append_assoc, List.append_assoc] at heq
      obtain ⟨rfl, hrest⟩ := hitem (htail hr) (htail hs) heq
      cases xs with
      | nil =>
        cases ys with
        | nil => exact ⟨rfl, hrest⟩
        | cons z zs =>
          have hnext : r = ',' :: (' ' :: separated ", " ((z :: zs).map text) ++ s) := hrest
          rw [hnext] at hr
          exact absurd hr (hcomma _)
      | cons z zs =>
        cases ys with
        | nil =>
          have hnext : ',' :: (' ' :: separated ", " ((z :: zs).map text) ++ r) = s := hrest
          rw [← hnext] at hs
          exact absurd hs (hcomma _)
        | cons w ws =>
          rw [listTail, listTail, List.append_assoc, List.append_assoc] at hrest
          obtain ⟨hitems, hrs⟩ := ih hr hs (List.append_cancel_left hrest)
          exact ⟨congrArg (x :: ·) hitems, hrs⟩

/-- Texts one behind the other are followed as each of them is. -/
theorem after_flatMap {α : Type} {After : List Char → Prop} {text : α → List Char}
    (hafter : ∀ a r, After r → After (text a ++ r)) (items : List α) {r : List Char}
    (hr : After r) : After (items.flatMap text ++ r) := by
  induction items with
  | nil => exact hr
  | cons x items ih =>
    rw [List.flatMap_cons, List.append_assoc]
    exact hafter x _ ih

/-- Pieces one directly after the other end where something follows that is no such piece. -/
theorem delimits_flatMap {α : Type} {After Stop : List Char → Prop} {text : α → List Char}
    (hitem : Delimits After text) (hstop : ∀ r, Stop r → After r)
    (hafter : ∀ a r, After r → After (text a ++ r)) (hopen : ∀ a x, ¬Stop (text a ++ x)) :
    Delimits Stop fun items : List α => items.flatMap text := by
  intro xs
  induction xs with
  | nil =>
    intro ys r s hr hs heq
    cases ys with
    | nil => exact ⟨rfl, heq⟩
    | cons y ys =>
      dsimp only at heq
      rw [List.flatMap_cons, List.append_assoc] at heq
      have hfirst : r = text y ++ (ys.flatMap text ++ s) := heq
      rw [hfirst] at hr
      exact absurd hr (hopen y _)
  | cons x xs ih =>
    intro ys r s hr hs heq
    cases ys with
    | nil =>
      dsimp only at heq
      rw [List.flatMap_cons, List.append_assoc] at heq
      have hfirst : text x ++ (xs.flatMap text ++ r) = s := heq
      rw [← hfirst] at hs
      exact absurd hs (hopen x _)
    | cons y ys =>
      dsimp only at heq
      rw [List.flatMap_cons, List.flatMap_cons, List.append_assoc, List.append_assoc] at heq
      obtain ⟨rfl, hrest⟩ := hitem (after_flatMap hafter xs (hstop r hr))
        (after_flatMap hafter ys (hstop s hs)) heq
      obtain ⟨rfl, hrs⟩ := ih hr hs hrest
      exact ⟨rfl, hrs⟩

/-! ## Clauses that may be missing -/

/-- The first word of a text that begins with a space. -/
def lead (r : List Char) : List Char := r.tail.takeWhile (· != ' ')

/-- A text that goes on with a space and a word. -/
def StartsWith (w : String) (r : List Char) : Prop := r.head? = some ' ' ∧ lead r = w.toList

/-- A text that is over or goes on with a space and one of the words. -/
def Follows (words : List String) (r : List Char) : Prop := r = [] ∨ ∃ w ∈ words, StartsWith w r

/-- The end of the text may follow anything. -/
theorem follows_nil (words : List String) : Follows words [] := Or.inl rfl

/-- A clause closes a list. -/
theorem Follows.closes {words : List String} {r : List Char} (h : Follows words r) : Closes r := by
  intro c hc
  rcases h with rfl | ⟨w, -, hhead, -⟩
  · cases hc
  · rw [hhead] at hc
    cases hc
    exact Or.inl rfl

/-- What may follow of fewer clauses may follow of more. -/
theorem Follows.mono {words more : List String} {r : List Char} (h : Follows words r)
    (hsub : words ⊆ more) : Follows more r := by
  rcases h with rfl | ⟨w, hw, hstart⟩
  · exact follows_nil more
  · exact Or.inr ⟨w, hsub hw, hstart⟩

/-- A text that starts with one of the words may follow. -/
theorem StartsWith.follows {words : List String} {w : String} {r : List Char}
    (h : StartsWith w r) (hw : w ∈ words) : Follows words r :=
  Or.inr ⟨w, hw, h⟩

/-- A text does not go on with two different words. -/
theorem StartsWith.not_follows {words : List String} {w : String} {r : List Char}
    (h : StartsWith w r) (hw : w ∉ words) : ¬Follows words r := by
  obtain ⟨hhead, hlead⟩ := h
  rintro (rfl | ⟨w', hw', -, hlead'⟩)
  · cases hhead
  · rw [hlead] at hlead'
    rw [String.toList_inj.mp hlead'] at hw
    exact hw hw'

/-- A clause that may be missing goes on with its own word or with what follows it. -/
theorem follows_clauseSql {words : List String} {w keyword : String} {r : List Char}
    (hk : ∀ x, StartsWith w (keyword.toList ++ x)) (clause : Option (List Char))
    (hr : Follows words r) : Follows (w :: words) (clauseSql keyword clause ++ r) := by
  cases clause with
  | none => exact hr.mono (List.subset_cons_self w words)
  | some text =>
    rw [clauseSql, List.append_assoc]
    exact (hk _).follows List.mem_cons_self

/-- A clause that may be missing ends where its text does, if what follows it never looks like the
beginning of the clause. -/
theorem delimits_clauseSql {α : Type} {After : List Char → Prop} {keyword : String}
    {text : α → List Char} (hstart : ∀ a x, ¬After (keyword.toList ++ (text a ++ x)))
    (htext : Delimits After text) :
    Delimits After fun clause : Option α => clauseSql keyword (clause.map text) := by
  intro a b r s hr hs heq
  cases a with
  | none =>
    cases b with
    | none => exact ⟨rfl, heq⟩
    | some y =>
      simp only [Option.map_some, Option.map_none, clauseSql, List.append_assoc,
        List.nil_append] at heq
      rw [heq] at hr
      exact absurd hr (hstart y _)
  | some x =>
    cases b with
    | none =>
      simp only [Option.map_some, Option.map_none, clauseSql, List.append_assoc,
        List.nil_append] at heq
      rw [← heq] at hs
      exact absurd hs (hstart x _)
    | some y =>
      simp only [Option.map_some, clauseSql, List.append_assoc] at heq
      obtain ⟨rfl, hrs⟩ := htext hr hs (List.append_cancel_left heq)
      exact ⟨rfl, hrs⟩

end TypedQuery.Sql
