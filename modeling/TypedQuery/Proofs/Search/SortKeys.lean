import TypedQuery.Proofs.Outcome
import TypedQuery.Proofs.Schema.Named
import TypedQuery.Proofs.Search.Token
import TypedQuery.Search.Sorting

/-!
# The grammar of written orderings

A text spells an ordering if it is a list of terms with commas between them, each a name that may be
followed by a direction and by a placement of NULL. `SortKey.Starts` says how one term is spelled,
`MoreSortKeys` how the terms after a comma are, and `SpellsSortKeys` is the language of whole texts.

A term may leave its direction and its placement out, so what is read of it depends on what follows.
In a text of the language this is a comma or the end (`EndsSortKey`), and neither goes on with a term:
so the readers find every term where it starts (`sortKey_of_starts`), and a text is read exactly if it
spells an ordering (`readAll_sortKeys_eq_ok_iff`). Looking the names up keeps the terms one by one
(`parseOrder_eq_ok_iff`).
-/

set_option autoImplicit false

namespace TypedQuery.Search

open TypedQuery.Text (isBlank lowerAscii)

/-! ## Rules -/

/-- A text starts with words, each with blanks in front, of which there has to be one. -/
inductive SpacedWords : List String → (cs rest : List Char) → Prop where
  | nil {rest : List Char} : SpacedWords [] rest rest
  | cons {word : String} {words : List String} {blanks cs after rest : List Char} :
      blanks ≠ [] → (∀ c ∈ blanks, isBlank c = true) → StartsWord word cs after →
      SpacedWords words after rest → SpacedWords (word :: words) (blanks ++ cs) rest

/-- The word of a direction. -/
def directionWord : Direction → String
  | .ascending => "asc"
  | .descending => "desc"

/-- The word of a placement. -/
def placementWord : NullPlacement → String
  | .first => "first"
  | .last => "last"

/-- A direction is written with its word; an ascending one may be left out. -/
def directionWords : Direction → List (List String)
  | .ascending => [[], [directionWord .ascending]]
  | .descending => [[directionWord .descending]]

/-- A placement is written with two words. -/
def placementWords : Option NullPlacement → List String
  | none => []
  | some nulls => ["nulls", placementWord nulls]

/-- A text starts with a term: a name, a direction and a placement of NULL. -/
inductive SortKey.Starts : SortKey → (cs rest : List Char) → Prop where
  | mk {column : String} {direction : Direction} {nulls : Option NullPlacement}
      {words : List String} {cs after rest : List Char} :
      (Token.name column).Starts cs after → words ∈ directionWords direction →
      SpacedWords (words ++ placementWords nulls) after rest →
      Starts ⟨column, direction, nulls⟩ cs rest

/-- A text goes on with terms, each behind a comma with blanks around it. -/
inductive MoreSortKeys : List SortKey → (cs rest : List Char) → Prop where
  | nil {rest : List Char} : MoreSortKeys [] rest rest
  | cons {key : SortKey} {keys : List SortKey} {before after cs mid rest : List Char} :
      (∀ c ∈ before, isBlank c = true) → (∀ c ∈ after, isBlank c = true) →
      key.Starts cs mid → MoreSortKeys keys mid rest →
      MoreSortKeys (key :: keys) (before ++ ',' :: (after ++ cs)) rest

/-- A text spells an ordering if it is a list of terms, of which there is at least one, with blanks
around it. -/
def SpellsSortKeys (text : List Char) (first : SortKey) (more : List SortKey) : Prop :=
  ∃ blanks cs mid rest, (∀ c ∈ blanks, isBlank c = true) ∧ text = blanks ++ cs ∧
    first.Starts cs mid ∧ MoreSortKeys more mid rest ∧ ∀ c ∈ rest, isBlank c = true

/-! ## Words with blanks in front -/

theorem isWord_directionWord (d : Direction) : IsWord (directionWord d) := by
  constructor
  · cases d <;> decide
  · cases d <;> simp [directionWord]

theorem isWord_nulls : IsWord "nulls" := by
  constructor
  · decide
  · simp

theorem isWord_placementWord (p : NullPlacement) : IsWord (placementWord p) := by
  constructor
  · cases p <;> decide
  · cases p <;> simp [placementWord]

/-- No blank starts a word. -/
theorem StartsWord.head_not_blank {word : String} (hword : IsWord word) {cs rest : List Char}
    (h : StartsWord word cs rest) : ∀ c ∈ cs.head?, isBlank c = false := by
  obtain ⟨c, cs', rfl, hletter, -⟩ := h.head hword
  rintro _ ⟨⟩
  by_contra hblank
  exact absurd hletter (not_le.mpr (lowerAscii_of_isBlank (Bool.not_eq_false _ ▸ hblank)))

theorem spacedWords_nil_iff {cs rest : List Char} : SpacedWords [] cs rest ↔ cs = rest := by
  constructor
  · intro h
    cases h
    rfl
  · rintro rfl
    exact .nil

/-- The first word stands behind the blanks. -/
theorem spacedWords_cons_iff {word : String} (hword : IsWord word) {words : List String}
    {cs rest : List Char} :
    SpacedWords (word :: words) cs rest ↔
      ∃ mid after, skipSomeBlanks? cs = some mid ∧ StartsWord word mid after ∧
        SpacedWords words after rest := by
  constructor
  · intro h
    cases h with
    | cons hne hblanks hstarts hrest =>
      refine ⟨_, _, ?_, hstarts, hrest⟩
      apply skipSomeBlanks?_eq_some_iff.mpr
      exact ⟨_, hne, hblanks, rfl, hstarts.head_not_blank hword⟩
  · rintro ⟨mid, after, hskip, hstarts, hrest⟩
    obtain ⟨blanks, hne, hblanks, rfl, -⟩ := skipSomeBlanks?_eq_some_iff.mp hskip
    exact .cons hne hblanks hstarts hrest

theorem spacedWords_singleton_iff {word : String} (hword : IsWord word) {cs rest : List Char} :
    SpacedWords [word] cs rest ↔ ∃ mid, skipSomeBlanks? cs = some mid ∧ StartsWord word mid rest := by
  simp [spacedWords_cons_iff hword, spacedWords_nil_iff]

/-- Words are read one part after the other. -/
theorem spacedWords_append_iff {words words' : List String} {cs rest : List Char} :
    SpacedWords (words ++ words') cs rest ↔
      ∃ mid, SpacedWords words cs mid ∧ SpacedWords words' mid rest := by
  constructor
  · intro h
    induction words generalizing cs with
    | nil => exact ⟨cs, .nil, h⟩
    | cons word words ih =>
      cases h with
      | cons hne hblanks hstarts hrest =>
        obtain ⟨mid, hwords, hwords'⟩ := ih hrest
        exact ⟨mid, .cons hne hblanks hstarts hwords, hwords'⟩
  · rintro ⟨mid, hwords, hwords'⟩
    induction hwords with
    | nil => exact hwords'
    | cons hne hblanks hstarts _ ih => exact .cons hne hblanks hstarts (ih hwords')

/-- A text starts with one word at most. -/
theorem SpacedWords.head_unique {word word' : String} (hword : IsWord word) (hword' : IsWord word')
    {words words' : List String} {cs rest rest' : List Char}
    (h : SpacedWords (word :: words) cs rest) (h' : SpacedWords (word' :: words') cs rest') :
    word = word' := by
  obtain ⟨mid, after, hskip, hstarts, -⟩ := (spacedWords_cons_iff hword).mp h
  obtain ⟨mid', after', hskip', hstarts', -⟩ := (spacedWords_cons_iff hword').mp h'
  obtain rfl := Option.some.inj (hskip.symm.trans hskip')
  exact (hstarts.unique hword hword' hstarts').1

/-- Words take characters off the front. -/
theorem SpacedWords.length_le {words : List String} {cs rest : List Char}
    (h : SpacedWords words cs rest) : rest.length ≤ cs.length := by
  induction h with
  | nil => exact Nat.le_refl _
  | cons _ _ hstarts _ ih =>
    obtain ⟨spelled, rfl, -, -⟩ := hstarts
    simp only [List.length_append]
    omega

/-! ## One term -/

/-- One of two words is read if it stands next behind blanks. -/
theorem eitherWord_eq_some_iff {α : Type} {word word' : String} (hword : IsWord word)
    (hword' : IsWord word') (hne : word ≠ word') {a a' b : α} {cs rest : List Char} :
    (skipSomeBlanks? cs).bind (fun next =>
      match keyword? word next with
      | some after => some (a, after)
      | none => (keyword? word' next).bind fun after => some (a', after)) = some (b, rest) ↔
      b = a ∧ SpacedWords [word] cs rest ∨ b = a' ∧ SpacedWords [word'] cs rest := by
  rw [spacedWords_singleton_iff hword, spacedWords_singleton_iff hword', Option.bind_eq_some_iff]
  cases hskip : skipSomeBlanks? cs with
  | none => simp
  | some next =>
    simp only [Option.some.injEq, exists_eq_left', ← keyword?_eq_some_iff_startsWord]
    cases hread : keyword? word next with
    | some after =>
      have hnone : keyword? word' next = none :=
        (keyword?_eq_some_iff_startsWord.mp hread).keyword?_eq_none hword hword' hne
      simp [hnone, eq_comm]
    | none =>
      simp only [Option.bind_eq_some_iff, Option.some.injEq, Prod.mk.injEq, reduceCtorEq, and_false,
        false_or]
      constructor
      · rintro ⟨after, h, rfl, rfl⟩
        exact ⟨rfl, h⟩
      · rintro ⟨rfl, h⟩
        exact ⟨rest, h, rfl, rfl⟩

/-- A direction is read where its word stands behind blanks. -/
theorem direction?_eq_some_iff {d : Direction} {cs rest : List Char} :
    direction? cs = some (d, rest) ↔ SpacedWords [directionWord d] cs rest := by
  refine (eitherWord_eq_some_iff (isWord_directionWord .ascending)
    (isWord_directionWord .descending) (by decide)).trans ?_
  cases d with
  | ascending => simp
  | descending => simp

/-- A placement is read where its two words stand behind blanks. -/
theorem placement?_eq_some_iff {p : NullPlacement} {cs rest : List Char} :
    placement? cs = some (p, rest) ↔ SpacedWords ["nulls", placementWord p] cs rest := by
  have hplacement : ∀ {after : List Char},
      p = .first ∧ SpacedWords [placementWord .first] after rest ∨
        p = .last ∧ SpacedWords [placementWord .last] after rest ↔
      SpacedWords [placementWord p] after rest := by
    intro after
    cases p with
    | first => simp
    | last => simp
  rw [placement?, Option.bind_eq_bind, Option.bind_eq_some_iff, spacedWords_cons_iff isWord_nulls]
  constructor
  · rintro ⟨after, hnulls, h⟩
    obtain ⟨mid, hskip, hnulls⟩ := Option.bind_eq_some_iff.mp hnulls
    refine ⟨mid, after, hskip, keyword?_eq_some_iff_startsWord.mp hnulls, hplacement.mp ?_⟩
    exact (eitherWord_eq_some_iff (isWord_placementWord .first) (isWord_placementWord .last)
      (by decide)).mp h
  · rintro ⟨mid, after, hskip, hnulls, h⟩
    refine ⟨after, Option.bind_eq_some_iff.mpr ⟨mid, hskip, ?_⟩, ?_⟩
    · exact keyword?_eq_some_iff_startsWord.mpr hnulls
    · exact (eitherWord_eq_some_iff (isWord_placementWord .first) (isWord_placementWord .last)
        (by decide)).mpr (hplacement.mpr h)

/-- What is read as a term starts the text. -/
theorem starts_of_sortKey {key : SortKey} {cs rest : List Char} (h : sortKey cs = .ok (key, rest)) :
    key.Starts cs rest := by
  rw [sortKey, bind_eq_ok] at h
  obtain ⟨⟨column, after⟩, hname, h⟩ := h
  have hname := name_eq_ok_iff.mp hname
  obtain ⟨direction, mid, hdirection, hwords⟩ : ∃ direction mid,
      (direction? after).getD (.ascending, after) = (direction, mid) ∧
        ∃ words ∈ directionWords direction, SpacedWords words after mid := by
    cases hread : direction? after with
    | none => exact ⟨.ascending, after, rfl, [], List.mem_cons_self, .nil⟩
    | some read =>
      obtain ⟨direction, mid⟩ := read
      refine ⟨direction, mid, rfl, [directionWord direction], ?_, direction?_eq_some_iff.mp hread⟩
      cases direction <;> simp [directionWords]
  obtain ⟨words, hmem, hwords⟩ := hwords
  dsimp only at h
  rw [hdirection] at h
  dsimp only at h
  split at h
  · next nulls rest' hplacement =>
    cases h
    have hplacement := placement?_eq_some_iff.mp hplacement
    exact .mk hname hmem (spacedWords_append_iff.mpr ⟨mid, hwords, hplacement⟩)
  · cases h
    exact .mk hname hmem (spacedWords_append_iff.mpr ⟨rest, hwords, .nil⟩)

/-- A term takes at least one character off the front. -/
theorem SortKey.Starts.length_lt {key : SortKey} {cs rest : List Char} (h : key.Starts cs rest) :
    rest.length < cs.length := by
  cases h with
  | mk hname _ hwords =>
    have hlt := hname.length_lt
    have hle := hwords.length_le
    omega

/-- No blank starts a term. -/
theorem SortKey.Starts.skipBlanks_eq {key : SortKey} {cs rest : List Char} (h : key.Starts cs rest) :
    skipBlanks cs = cs := by
  cases h with
  | mk hname _ _ => exact hname.skipBlanks_eq

/-- Behind blanks there is a comma or the end, so that a term does not go on. -/
def EndsSortKey (cs : List Char) : Prop := ∀ c ∈ (skipBlanks cs).head?, c = ','

/-- Neither a comma nor the end is a word. -/
theorem EndsSortKey.not_spacedWords {cs : List Char} (h : EndsSortKey cs) {word : String}
    (hword : IsWord word) {words : List String} {rest : List Char} :
    ¬SpacedWords (word :: words) cs rest := by
  intro hwords
  cases hwords with
  | @cons _ _ blanks cs' after _ _ hblanks hstarts _ =>
    obtain ⟨c, cs'', rfl, hletter, -⟩ := hstarts.head hword
    have hnot := hstarts.head_not_blank hword c rfl
    have hskip : skipBlanks (blanks ++ c :: cs'') = c :: cs'' := by
      rw [skipBlanks_append hblanks]
      exact List.dropWhile_cons_of_neg (by simp [hnot])
    obtain rfl : c = ',' := h c (by simp [hskip])
    exact absurd hletter (by decide)

/-- Where a direction is left out, none is read: what follows is a placement or no word at all. -/
theorem direction?_of_placementWords {nulls : Option NullPlacement} {cs rest : List Char}
    (h : SpacedWords (placementWords nulls) cs rest) (hends : EndsSortKey rest) :
    direction? cs = none := by
  rw [Option.eq_none_iff_forall_ne_some]
  rintro ⟨d, mid⟩ hread
  have hwords := direction?_eq_some_iff.mp hread
  cases nulls with
  | none =>
    obtain rfl := spacedWords_nil_iff.mp h
    exact hends.not_spacedWords (isWord_directionWord d) hwords
  | some p =>
    have heq := hwords.head_unique (isWord_directionWord d) isWord_nulls h
    revert heq
    cases d <;> decide

/-- A term is read where it starts, if what follows ends it. -/
theorem sortKey_of_starts {key : SortKey} {cs rest : List Char} (h : key.Starts cs rest)
    (hends : EndsSortKey rest) : sortKey cs = .ok (key, rest) := by
  cases h with
  | @mk column direction nulls words _ after _ hname hmem hwords =>
    obtain ⟨mid, hdirection, hplacement⟩ := spacedWords_append_iff.mp hwords
    have hread : (direction? after).getD (.ascending, after) = (direction, mid) := by
      cases direction with
      | ascending =>
        simp only [directionWords, List.mem_cons, List.not_mem_nil, or_false] at hmem
        rcases hmem with rfl | rfl
        · obtain rfl := spacedWords_nil_iff.mp hdirection
          rw [direction?_of_placementWords hplacement hends]
          rfl
        · rw [direction?_eq_some_iff.mpr hdirection]
          rfl
      | descending =>
        obtain rfl := List.mem_singleton.mp hmem
        rw [direction?_eq_some_iff.mpr hdirection]
        rfl
    rw [sortKey, name_eq_ok_iff.mpr hname]
    simp only [bind, Except.bind, hread]
    cases nulls with
    | none =>
      obtain rfl := spacedWords_nil_iff.mp hplacement
      have hnone : placement? mid = none := by
        rw [Option.eq_none_iff_forall_ne_some]
        rintro ⟨p, rest⟩ hread
        exact hends.not_spacedWords isWord_nulls (placement?_eq_some_iff.mp hread)
      rw [hnone]
      rfl
    | some p =>
      rw [placement?_eq_some_iff.mpr hplacement]
      rfl

/-! ## Terms behind commas -/

theorem comma?_eq_some_iff {cs next : List Char} :
    comma? cs = some next ↔ ∃ after, skipBlanks cs = ',' :: after ∧ next = skipBlanks after := by
  unfold comma?
  split
  · next rest heq =>
    simp only [Option.some.injEq, heq, List.cons.injEq, true_and]
    exact ⟨fun h => ⟨rest, rfl, h.symm⟩, fun ⟨_, hafter, h⟩ => by rw [h, hafter]⟩
  · next hnot =>
    simp only [reduceCtorEq, false_iff]
    rintro ⟨after, heq, -⟩
    exact hnot after heq

/-- What is read behind commas are terms. -/
theorem moreSortKeys_sound (bound : Nat) (cs : List Char) :
    MoreSortKeys (moreSortKeys bound cs).1 cs (moreSortKeys bound cs).2 := by
  induction bound generalizing cs with
  | zero => exact .nil
  | succ bound ih =>
    rw [moreSortKeys]
    split
    · exact .nil
    · next next hcomma =>
      obtain ⟨after, hafter, rfl⟩ := comma?_eq_some_iff.mp hcomma
      split
      · exact .nil
      · next key mid hkey =>
        obtain ⟨before, hbefore, hcs⟩ := exists_blanks_append_skipBlanks cs
        obtain ⟨blanks, hblanks, hnext⟩ := exists_blanks_append_skipBlanks after
        rw [hcs, hafter, hnext]
        exact .cons hbefore hblanks (starts_of_sortKey hkey) (ih mid)

namespace MoreSortKeys

variable {keys : List SortKey} {cs rest : List Char}

/-- A term is ended by the comma of the next one, or by the end of the text. -/
theorem endsSortKey (h : MoreSortKeys keys cs rest) (hrest : ∀ c ∈ rest, isBlank c = true) :
    EndsSortKey cs := by
  intro c hc
  cases h with
  | nil =>
    rw [skipBlanks_eq_nil_iff.mpr hrest] at hc
    cases hc
  | @cons _ _ _ after cs' _ _ hbefore _ _ _ =>
    have hskip : skipBlanks (',' :: (after ++ cs')) = ',' :: (after ++ cs') :=
      List.dropWhile_cons_of_neg (by decide)
    rw [skipBlanks_append hbefore, hskip] at hc
    cases hc
    rfl

/-- Terms behind commas are read, whatever bound on their number the text allows. -/
theorem read (h : MoreSortKeys keys cs rest) (hrest : ∀ c ∈ rest, isBlank c = true) {bound : Nat}
    (hbound : cs.length ≤ bound) : moreSortKeys bound cs = (keys, rest) := by
  induction h generalizing bound with
  | @nil rest =>
    have hcomma : comma? rest = none := by
      rw [comma?, skipBlanks_eq_nil_iff.mpr hrest]
    cases bound with
    | zero => rfl
    | succ bound => rw [moreSortKeys, hcomma]
  | @cons key keys before after cs mid rest hbefore hafter hkey hmore ih =>
    have hlength := hkey.length_lt
    simp only [List.length_append, List.length_cons] at hbound
    obtain ⟨bound, rfl⟩ := Nat.exists_eq_add_of_le' (show 1 ≤ bound by omega)
    have hcomma : comma? (before ++ ',' :: (after ++ cs)) = some cs := by
      apply comma?_eq_some_iff.mpr
      refine ⟨after ++ cs, ?_, ?_⟩
      · rw [skipBlanks_append hbefore]
        exact List.dropWhile_cons_of_neg (by decide)
      · rw [skipBlanks_append hafter, hkey.skipBlanks_eq]
    have hread := sortKey_of_starts hkey (hmore.endsSortKey hrest)
    have hmid : moreSortKeys bound mid = (keys, rest) := ih hrest (by omega)
    simp only [moreSortKeys, hcomma, hread, hmid]

end MoreSortKeys

/-! ## Whole texts -/

/-- What is read as terms starts the text. -/
theorem starts_of_sortKeys {first : SortKey} {more : List SortKey} {cs rest : List Char}
    (h : sortKeys cs = .ok ((first, more), rest)) :
    ∃ mid, first.Starts cs mid ∧ MoreSortKeys more mid rest := by
  obtain ⟨⟨first', mid⟩, hfirst, h⟩ := bind_eq_ok.mp h
  have hmore := moreSortKeys_sound mid.length mid
  cases h
  exact ⟨mid, starts_of_sortKey hfirst, hmore⟩

/-- A text is read exactly if it spells an ordering, and then as the terms that it spells. -/
theorem readAll_sortKeys_eq_ok_iff {text : String} {first : SortKey} {more : List SortKey} :
    readAll sortKeys text = .ok (first, more) ↔ SpellsSortKeys text.toList first more := by
  refine readAll_eq_ok_iff.trans ?_
  constructor
  · rintro ⟨rest, hread, hrest⟩
    obtain ⟨mid, hfirst, hmore⟩ := starts_of_sortKeys hread
    obtain ⟨blanks, hblanks, htext⟩ := exists_blanks_append_skipBlanks text.toList
    exact ⟨blanks, _, mid, rest, hblanks, htext, hfirst, hmore, hrest⟩
  · rintro ⟨blanks, cs, mid, rest, hblanks, htext, hfirst, hmore, hrest⟩
    refine ⟨rest, ?_, hrest⟩
    rw [htext, skipBlanks_append hblanks, hfirst.skipBlanks_eq, sortKeys,
      sortKey_of_starts hfirst (hmore.endsSortKey hrest)]
    simp only [bind, Except.bind, hmore.read hrest (Nat.le_refl _)]
    rfl

/-! ## Looking the names up -/

/-- A term of an ordering says what a written term says, about the column of its name. -/
structure SortKey.Becomes (table : Table) (key : SortKey) (term : OrderTerm) : Prop where
  column : ∃ c, table.named? key.column = some c ∧ term.expr = .column c
  direction : term.direction = key.direction
  nulls : term.nulls = key.nulls

/-- A written term becomes a term exactly if the table has a column of its name. -/
theorem SortKey.exists_becomes_iff {table : Table} {key : SortKey} :
    (∃ term, key.Becomes table term) ↔ table.Has key.column := by
  rw [← Table.isSome_named?_iff, Option.isSome_iff_exists]
  constructor
  · rintro ⟨term, h⟩
    obtain ⟨c, hc, -⟩ := h.column
    exact ⟨c, hc⟩
  · rintro ⟨c, hc⟩
    exact ⟨⟨.column c, key.direction, key.nulls⟩, ⟨c, hc, rfl⟩, rfl, rfl⟩

theorem SortKey.exists_all_become_iff {table : Table} {keys : List SortKey} :
    (∃ terms, List.Forall₂ (SortKey.Becomes table) keys terms) ↔
      ∀ key ∈ keys, table.Has key.column := by
  induction keys with
  | nil => simp
  | cons key keys ih =>
    rw [List.forall_mem_cons, ← exists_becomes_iff, ← ih]
    constructor
    · rintro ⟨_, hall⟩
      obtain ⟨term, terms, hterm, hterms, -⟩ := List.forall₂_cons_left_iff.mp hall
      exact ⟨⟨term, hterm⟩, terms, hterms⟩
    · rintro ⟨⟨term, hterm⟩, terms, hterms⟩
      exact ⟨term :: terms, .cons hterm hterms⟩

theorem SortKey.resolve_of_named {table : Table} {key : SortKey} {c : Column}
    (h : table.named? key.column = some c) :
    key.resolve table = .ok ⟨[⟨.column c, key.direction, key.nulls⟩]⟩ := by
  rw [resolve, Table.column_scalar, h]
  cases key.nulls with
  | none => rfl
  | some nulls => rfl

theorem SortKey.resolve_of_missing {table : Table} {key : SortKey}
    (h : table.named? key.column = none) :
    key.resolve table = .error (.columnNotFound table.name (.name key.column)) := by
  rw [resolve, Table.column_scalar, h]
  rfl

/-- One written term is looked up as an ordering of one term. -/
theorem SortKey.resolve_eq_ok_iff {table : Table} {key : SortKey} {order : OrderBy} :
    key.resolve table = .ok order ↔ ∃ term, key.Becomes table term ∧ order.terms = [term] := by
  cases hnamed : table.named? key.column with
  | none =>
    simp only [resolve_of_missing hnamed, reduceCtorEq, false_iff]
    rintro ⟨term, h, -⟩
    obtain ⟨c, hc, -⟩ := h.column
    rw [hnamed] at hc
    cases hc
  | some c =>
    rw [resolve_of_named hnamed, Except.ok.injEq]
    constructor
    · rintro rfl
      exact ⟨_, ⟨⟨c, hnamed, rfl⟩, rfl, rfl⟩, rfl⟩
    · rintro ⟨⟨expr, direction, nulls⟩, h, hterms⟩
      obtain ⟨c', hc', rfl⟩ := h.column
      obtain rfl := Option.some.inj (hnamed.symm.trans hc')
      obtain rfl := h.direction
      obtain rfl := h.nulls
      obtain ⟨terms⟩ := order
      obtain rfl := hterms
      rfl

/-- The other terms are added in their order, each as it is written. -/
theorem resolveMore_eq_ok_iff {table : Table} {order result : OrderBy} {keys : List SortKey} :
    resolveMore table order keys = .ok result ↔
      ∃ terms, List.Forall₂ (SortKey.Becomes table) keys terms ∧
        result.terms = order.terms ++ terms := by
  induction keys generalizing order with
  | nil =>
    simp only [resolveMore, Except.ok.injEq, List.forall₂_nil_left_iff, exists_eq_left,
      List.append_nil]
    exact ⟨fun h => congrArg OrderBy.terms h.symm, fun h => OrderBy.mk.injEq .. ▸ h.symm⟩
  | cons key keys ih =>
    simp only [resolveMore, bind_eq_ok, ih, SortKey.resolve_eq_ok_iff, OrderBy.andThen]
    constructor
    · rintro ⟨next, ⟨term, hterm, hnext⟩, terms, hterms, hresult⟩
      refine ⟨term :: terms, .cons hterm hterms, ?_⟩
      rw [hresult, hnext, List.append_assoc, List.singleton_append]
    · rintro ⟨_, hall, hresult⟩
      obtain ⟨term, terms, hterm, hterms, rfl⟩ := List.forall₂_cons_left_iff.mp hall
      refine ⟨⟨[term]⟩, ⟨term, hterm, rfl⟩, terms, hterms, ?_⟩
      rw [hresult, List.append_assoc, List.singleton_append]

/-- Looking names up is never refused for the syntax. -/
theorem SortKey.resolve_ne_parse (table : Table) (key : SortKey) (fault : ParseFault) :
    key.resolve table ≠ .error (.parse fault) := by
  refine bind_ne_error Table.column_ne_parse fun c => ?_
  cases key.nulls <;> nofun

theorem resolveMore_ne_parse (table : Table) (order : OrderBy) (keys : List SortKey)
    (fault : ParseFault) : resolveMore table order keys ≠ .error (.parse fault) := by
  induction keys generalizing order with
  | nil => nofun
  | cons key keys ih => exact bind_ne_error (key.resolve_ne_parse table fault) fun _ => ih _

/-- The terms of a text that spells an ordering are looked up one after the other. -/
theorem parseOrder_of_spells {text : String} {first : SortKey} {more : List SortKey}
    (h : SpellsSortKeys text.toList first more) (table : Table) :
    parseOrder table text =
      first.resolve table >>= fun order => resolveMore table order more := by
  rw [parseOrder, readAll_sortKeys_eq_ok_iff.mpr h]
  rfl

/-- The ordering of a text has one term for each term that the text spells. -/
theorem parseOrder_eq_ok_iff {text : String} {first : SortKey} {more : List SortKey}
    (h : SpellsSortKeys text.toList first more) {table : Table} {order : OrderBy} :
    parseOrder table text = .ok order ↔
      List.Forall₂ (SortKey.Becomes table) (first :: more) order.terms := by
  rw [parseOrder_of_spells h]
  simp only [bind_eq_ok, SortKey.resolve_eq_ok_iff, resolveMore_eq_ok_iff]
  constructor
  · rintro ⟨start, ⟨term, hterm, hstart⟩, terms, hterms, horder⟩
    rw [horder, hstart]
    exact .cons hterm hterms
  · intro hall
    obtain ⟨term, terms, hterm, hterms, horder⟩ := List.forall₂_cons_left_iff.mp hall
    exact ⟨⟨[term]⟩, ⟨term, hterm, rfl⟩, terms, hterms, horder⟩

/-- A text is refused for its syntax when it is read, not when its names are looked up. -/
theorem parseOrder_eq_parse_error_iff {table : Table} {text : String} {fault : ParseFault} :
    parseOrder table text = .error (.parse fault) ↔
      readAll sortKeys text = .error (.parse fault) := by
  refine bind_eq_error.trans (or_iff_left ?_)
  rintro ⟨⟨first, more⟩, -, h⟩
  exact bind_ne_error (first.resolve_ne_parse table fault)
    (fun order => resolveMore_ne_parse table order more fault) h

/-- The texts that are read are those that spell an ordering, and each of them is read as the only
list of terms that it spells. For any table a text is refused for its syntax exactly if it spells
nothing. Any other text is accepted exactly if the table has all its columns, and the ordering then
has the terms of the text in their order, each with its own column, direction and placement. -/
theorem parseOrder_reads_spelled (text : String) :
    (∀ first more, readAll sortKeys text = .ok (first, more) ↔
        SpellsSortKeys text.toList first more) ∧
      ∀ table, ((∃ fault, parseOrder table text = .error (.parse fault)) ↔
          ¬∃ first more, SpellsSortKeys text.toList first more) ∧
        ∀ first more, SpellsSortKeys text.toList first more →
          ((∃ order, parseOrder table text = .ok order) ↔
            ∀ key ∈ first :: more, table.Has key.column) ∧
          ∀ order, parseOrder table text = .ok order ↔
            List.Forall₂ (SortKey.Becomes table) (first :: more) order.terms := by
  refine ⟨fun first more => readAll_sortKeys_eq_ok_iff, fun table => ⟨⟨?refused, ?spellsNothing⟩, ?_⟩⟩
  case refused =>
    rintro ⟨fault, hfault⟩ ⟨first, more, h⟩
    have hread := parseOrder_eq_parse_error_iff.mp hfault
    rw [readAll_sortKeys_eq_ok_iff.mpr h] at hread
    cases hread
  case spellsNothing =>
    intro hnone
    cases hread : readAll sortKeys text with
    | ok keys => exact absurd ⟨keys.1, keys.2, readAll_sortKeys_eq_ok_iff.mp hread⟩ hnone
    | error e =>
      obtain ⟨fault, rfl⟩ := readAll_error hread
      exact ⟨fault, parseOrder_eq_parse_error_iff.mpr hread⟩
  · intro first more h
    refine ⟨?_, fun order => parseOrder_eq_ok_iff h⟩
    rw [← SortKey.exists_all_become_iff]
    simp only [parseOrder_eq_ok_iff h]
    exact ⟨fun ⟨order, hall⟩ => ⟨order.terms, hall⟩, fun ⟨terms, hall⟩ => ⟨⟨terms⟩, hall⟩⟩

/-- Columns named like the words, bare and in quotes, words in any case, and no blanks around one of
the commas. -/
theorem parseOrder_reads_spelled_of_keywords :
    let text := " asc DESC nulls First ,\"b c\",nulls Nulls LAST"
    let first : SortKey := ⟨"asc", .descending, some .first⟩
    let more : List SortKey := [⟨"b c", .ascending, none⟩, ⟨"nulls", .ascending, some .last⟩]
    let table : Table := ⟨⟨0⟩, "t", [⟨"nulls", .text⟩, ⟨"b c", .real⟩, ⟨"asc", .integer⟩]⟩
    SpellsSortKeys text.toList first more ∧
      ∃ order, parseOrder table text = .ok order ∧
        List.Forall₂ (SortKey.Becomes table) (first :: more) order.terms := by
  intro text first more table
  have hread : readAll sortKeys text = .ok (first, more) := by decide +kernel
  obtain ⟨hiff, horder⟩ := parseOrder_reads_spelled text
  have hspells := (hiff first more).mp hread
  obtain ⟨hexists, hterms⟩ := (horder table).2 first more hspells
  obtain ⟨order, hok⟩ := hexists.mpr (by decide)
  exact ⟨hspells, order, hok, (hterms order).mp hok⟩

end TypedQuery.Search
