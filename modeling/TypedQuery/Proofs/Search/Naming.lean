import TypedQuery.Proofs.Search.Resolved
import TypedQuery.Proofs.Search.SortKeys
import TypedQuery.Proofs.Sql.Name

/-!
# Naming columns in search texts

A name is written in a search text as it stands in statements. A name that is not empty and has no
double quote is understood so, bare or in quotes, whatever its other characters are
(`starts_identifier`): alone, and in the place of any name of a larger condition or ordering. A name
that is empty or has a double quote cannot be written. Statements double its quotes, but in search
texts a name ends at the first quote and has at least one character, so that no text that begins with
such a name spells anything (`not_spells_unnameable`, `not_spellsSortKeys_unnameable`).
-/

set_option autoImplicit false

namespace TypedQuery

namespace Search

open Sql (identifier doubleQuotes needsQuotes quoted)
open TypedQuery.Text (isBlank isNameChar lowerAscii)

/-! ## Written names -/

/-- A name that search texts can spell. -/
def Nameable (name : String) : Prop := name.toList ≠ [] ∧ '"' ∉ name.toList

instance : DecidablePred Nameable := fun name =>
  inferInstanceAs (Decidable (name.toList ≠ [] ∧ '"' ∉ name.toList))

/-- A written name ends in front of this text: a bare one before any character of a name. -/
def EndsWritten (name : String) (after : List Char) : Prop :=
  needsQuotes name.toList = false → EndsWord after

theorem doubleQuotes_of_not_mem {cs : List Char} (h : '"' ∉ cs) : doubleQuotes cs = cs := by
  induction cs with
  | nil => rfl
  | cons c cs ih =>
    rw [List.mem_cons, not_or] at h
    rw [doubleQuotes, if_neg (Ne.symm h.1), ih h.2]

/-- A name that can be spelled is found where it is written. -/
theorem starts_identifier {name : String} (h : Nameable name) {after : List Char}
    (hends : EndsWritten name after) : (Token.name name).Starts (identifier name ++ after) after := by
  have hname : name = String.ofList name.toList := String.ofList_toList.symm
  rw [identifier]
  cases hquotes : needsQuotes name.toList with
  | false =>
    have hbare := Sql.bareWord_of_needsQuotes_eq_false hquotes
    rw [if_neg Bool.false_ne_true]
    conv => enter [1, 1]; rw [hname]
    exact .bareName h.1 hbare.nameChars (hends hquotes)
  | true =>
    rw [if_pos rfl, quoted, doubleQuotes_of_not_mem h.2, List.append_assoc]
    conv => enter [1, 1]; rw [hname]
    exact .quotedName h.1 h.2

/-! ## Names that cannot be spelled -/

/-- The first quote of a text is written twice. -/
theorem exists_doubleQuotes_of_mem {cs : List Char} (h : '"' ∈ cs) :
    ∃ before behind, '"' ∉ before ∧ doubleQuotes cs = before ++ '"' :: '"' :: behind := by
  induction cs with
  | nil => cases h
  | cons c cs ih =>
    by_cases hc : c = '"'
    · exact ⟨[], doubleQuotes cs, List.not_mem_nil, by rw [doubleQuotes, if_pos hc, List.nil_append]⟩
    · obtain ⟨before, behind, hbefore, heq⟩ := ih (List.mem_of_ne_of_mem (Ne.symm hc) h)
      refine ⟨c :: before, behind, ?_, ?_⟩
      · exact List.not_mem_cons_of_ne_of_not_mem (Ne.symm hc) hbefore
      · rw [doubleQuotes, if_neg hc, heq, List.cons_append]

/-- Behind the first quote of a name that cannot be spelled comes the second quote at once, or the
next quote is doubled. -/
theorem exists_identifier_of_not_nameable {name : String} (h : ¬Nameable name) (after : List Char) :
    ∃ before behind, '"' ∉ before ∧ identifier name ++ after = '"' :: (before ++ '"' :: behind) ∧
      (before = [] ∨ behind.head? = some '"') := by
  by_cases hmem : '"' ∈ name.toList
  · have hquotes : needsQuotes name.toList = true := by
      have hany : name.toList.any (fun c => !isNameChar c) = true :=
        List.any_eq_true.mpr ⟨'"', hmem, by decide⟩
      simp [needsQuotes, hany]
    obtain ⟨before, behind, hbefore, heq⟩ := exists_doubleQuotes_of_mem hmem
    refine ⟨before, '"' :: (behind ++ '"' :: after), hbefore, ?_, .inr rfl⟩
    rw [identifier, if_pos hquotes, quoted, heq]
    simp
  · have hempty : name.toList = [] := by
      by_contra hne
      exact h ⟨hne, hmem⟩
    have hquotes : needsQuotes name.toList = true := by
      simp [needsQuotes, hempty]
    refine ⟨[], after, List.not_mem_nil, ?_, .inl rfl⟩
    rw [identifier, if_pos hquotes, hempty]
    rfl

/-- Where a name that cannot be spelled is written, only its part up to a quote is found, if any. -/
theorem head?_of_starts_unnameable {name found : String} (h : ¬Nameable name) {after rest : List Char}
    (hstarts : (Token.name found).Starts (identifier name ++ after) rest) :
    rest.head? = some '"' := by
  obtain ⟨before, behind, hbefore, htext, hcase⟩ := exists_identifier_of_not_nameable h after
  rw [htext] at hstarts
  rcases starts_name_iff.mp hstarts with ⟨spelled, hne, hspan, -⟩ | hread
  · obtain ⟨heq, hchars, -⟩ := span_eq_iff.mp hspan
    cases spelled with
    | nil => exact absurd rfl hne
    | cons c spelled =>
      obtain ⟨rfl, -⟩ := List.cons.inj heq
      exact absurd (hchars _ List.mem_cons_self) (by decide)
  · obtain ⟨spelled, hne, hquote, -, heq⟩ := quotedName?_eq_some_iff.mp hread
    have hrun : ∀ {cs : List Char}, '"' ∉ cs → ∀ c ∈ cs, (c != '"') = true := by
      intro cs hcs c hc
      exact bne_iff_ne.mpr fun heq => hcs (heq ▸ hc)
    have hstop : ∀ {cs : List Char}, ∀ c ∈ ('"' :: cs).head?, (c != '"') = false := by
      rintro cs _ ⟨⟩
      rfl
    obtain ⟨rfl, htail⟩ := Sql.append_inj_of_run (· != '"') (hrun hbefore) (hrun hquote) hstop hstop
      (List.cons.inj heq).2
    obtain ⟨-, rfl⟩ := List.cons.inj htail
    exact hcase.resolve_left hne

/-- A condition begins with a parenthesis, or with a name and a keyword or a sign behind it. -/
theorem Derives.begins {rank : Rank} {ts : List Token} {c : Condition} (h : Derives rank ts c) :
    (∃ us, ts = .opening :: us) ∨ ∃ name t us, ts = .name name :: t :: us ∧
      ((∃ word, t = .keyword word) ∨ ∃ op, t = .sign op) := by
  have happend : ∀ {ts us : List Token},
      ((∃ us, ts = .opening :: us) ∨ ∃ name t us, ts = .name name :: t :: us ∧
        ((∃ word, t = .keyword word) ∨ ∃ op, t = .sign op)) →
      (∃ vs, ts ++ us = .opening :: vs) ∨ ∃ name t vs, ts ++ us = .name name :: t :: vs ∧
        ((∃ word, t = .keyword word) ∨ ∃ op, t = .sign op) := by
    rintro ts us (⟨vs, rfl⟩ | ⟨name, t, vs, rfl, ht⟩)
    · exact .inl ⟨vs ++ us, rfl⟩
    · exact .inr ⟨name, t, vs ++ us, rfl, ht⟩
  induction h with
  | conjunction _ ih => exact ih
  | or _ _ ih _ => exact happend ih
  | term _ ih => exact ih
  | and _ _ ih _ => exact happend ih
  | parentheses _ _ => exact .inl ⟨_, rfl⟩
  | isNull => exact .inr ⟨_, _, _, rfl, .inl ⟨_, rfl⟩⟩
  | isNotNull => exact .inr ⟨_, _, _, rfl, .inl ⟨_, rfl⟩⟩
  | like => exact .inr ⟨_, _, _, rfl, .inl ⟨_, rfl⟩⟩
  | compare _ => exact .inr ⟨_, _, _, rfl, .inr ⟨_, rfl⟩⟩

/-- Neither a keyword nor a sign begins with a quote. -/
theorem not_starts_of_quote {t : Token} {cs rest : List Char} (hquote : cs.head? = some '"')
    (ht : (∃ word, t = .keyword word) ∨ ∃ op, t = .sign op) : ¬t.Starts cs rest := by
  intro h
  rcases ht with ⟨word, rfl⟩ | ⟨op, rfl⟩
  · obtain ⟨c, cs', rfl, hletter, -⟩ := h.keyword_head
    obtain rfl := Option.some.inj hquote
    exact absurd hletter (by decide)
  · cases h with
    | sign hmem =>
      cases op <;> simp only [signs, List.mem_cons, List.not_mem_nil, or_false] at hmem
      case eq | ne => rcases hmem with rfl | rfl <;> cases hquote
      all_goals
        subst hmem
        cases hquote

/-- A quote is no blank. -/
theorem skipBlanks_of_quote {cs : List Char} (h : cs.head? = some '"') : skipBlanks cs = cs := by
  cases cs with
  | nil => cases h
  | cons c cs =>
    obtain rfl := Option.some.inj h
    exact List.dropWhile_cons_of_neg (by decide)

theorem head?_identifier_of_not_nameable {name : String} (h : ¬Nameable name) (after : List Char) :
    (identifier name ++ after).head? = some '"' := by
  obtain ⟨before, behind, -, htext, -⟩ := exists_identifier_of_not_nameable h after
  rw [htext]
  rfl

/-- No text that begins with a name that cannot be spelled is a condition. -/
theorem not_spells_unnameable {name : String} (h : ¬Nameable name) (after : List Char)
    (c : Condition) : ¬Spells (identifier name ++ after) c := by
  rintro ⟨ts, rest, hderives, hreads, -⟩
  have hhead := head?_identifier_of_not_nameable h after
  rcases hderives.begins with ⟨us, rfl⟩ | ⟨found, t, us, rfl, ht⟩
  · obtain ⟨behind, hstarts, -⟩ := reads_cons_iff.mp hreads
    rw [skipBlanks_of_quote hhead] at hstarts
    cases hopening : identifier name ++ after with
    | nil =>
      rw [hopening] at hhead
      cases hhead
    | cons d ds =>
      rw [hopening] at hstarts hhead
      cases hstarts
      cases hhead
  · obtain ⟨mid, hstarts, hreads⟩ := reads_cons_iff.mp hreads
    rw [skipBlanks_of_quote hhead] at hstarts
    have hmid := head?_of_starts_unnameable h hstarts
    obtain ⟨behind, hnext, -⟩ := reads_cons_iff.mp hreads
    rw [skipBlanks_of_quote hmid] at hnext
    exact not_starts_of_quote hmid ht hnext

/-- No text that begins with a name that cannot be spelled is an ordering. -/
theorem not_spellsSortKeys_unnameable {name : String} (h : ¬Nameable name) (after : List Char)
    (first : SortKey) (more : List SortKey) : ¬SpellsSortKeys (identifier name ++ after) first more := by
  rintro ⟨blanks, cs, mid, rest, hblanks, htext, hfirst, hmore, hrest⟩
  have hhead := head?_identifier_of_not_nameable h after
  have hnoBlank : ∀ {before behind : List Char}, (before ++ behind).head? = some '"' →
      (∀ c ∈ before, isBlank c = true) → before = [] := by
    intro before behind hquote hbefore
    cases before with
    | nil => rfl
    | cons b before =>
      obtain rfl := Option.some.inj hquote
      exact absurd (hbefore _ List.mem_cons_self) (by decide)
  rw [htext] at hhead
  obtain rfl := hnoBlank hhead hblanks
  rw [List.nil_append] at htext
  cases hfirst with
  | @mk _ _ nulls words _ _ _ hname _ hwords =>
    rw [← htext] at hname
    have hafter := head?_of_starts_unnameable h hname
    generalize words ++ placementWords nulls = spaced at hwords
    cases hwords with
    | nil =>
      cases hmore with
      | nil => exact absurd (hrest '"' (List.mem_of_head? hafter)) (by decide)
      | cons hbefore _ _ _ =>
        obtain rfl := hnoBlank hafter hbefore
        cases hafter
    | cons hne hblank _ _ => exact hne (hnoBlank hafter hblank)

theorem parseOrder_of_not_spells {text : String}
    (h : ∀ first more, ¬SpellsSortKeys text.toList first more) (table : Table) :
    ∃ fault, parseOrder table text = .error (.parse fault) := by
  cases hread : readAll sortKeys text with
  | ok keys => exact absurd (readAll_sortKeys_eq_ok_iff.mp hread) (h keys.1 keys.2)
  | error e =>
    obtain ⟨fault, rfl⟩ := readAll_error hread
    exact ⟨fault, parseOrder_eq_parse_error_iff.mpr hread⟩

/-! ## Names in larger texts -/

/-- Items that correspond stand at the same place. -/
theorem getElem?_of_forall₂ {α β : Type} {R : α → β → Prop} {before behind : List α} {a : α}
    {items : List β} (h : List.Forall₂ R (before ++ a :: behind) items) :
    ∃ b, items[before.length]? = some b ∧ R a b := by
  induction before generalizing items with
  | nil =>
    obtain ⟨b, _, hb, -, rfl⟩ := List.forall₂_cons_left_iff.mp h
    exact ⟨b, rfl, hb⟩
  | cons _ before ih =>
    obtain ⟨_, _, -, hitems, rfl⟩ := List.forall₂_cons_left_iff.mp h
    exact ih hitems

/-- A text consists of some tokens, a written name, further tokens, and blanks behind them. -/
def ReadsAround (us : List Token) (name : String) (vs : List Token) (text : List Char) : Prop :=
  ∃ blanks after rest, (∀ b ∈ blanks, isBlank b = true) ∧
    Reads us text (blanks ++ (identifier name ++ after)) ∧ EndsWritten name after ∧
    Reads vs after rest ∧ ∀ b ∈ rest, isBlank b = true

/-- The written name is read as a token between the others. -/
theorem ReadsAround.reads {us vs : List Token} {name : String} {text : List Char}
    (h : ReadsAround us name vs text) (hname : Nameable name) :
    ∃ rest, Reads (us ++ .name name :: vs) text rest ∧ ∀ b ∈ rest, isBlank b = true := by
  obtain ⟨blanks, after, rest, hblanks, hbefore, hends, hbehind, hrest⟩ := h
  refine ⟨rest, reads_append_iff.mpr ⟨_, hbefore, ?_⟩, hrest⟩
  exact .cons hblanks (starts_identifier hname hends) hbehind

/-- A text starts with terms, each with a comma behind it and blanks around the comma. -/
inductive LeadingKeys : List SortKey → (cs rest : List Char) → Prop where
  | nil {rest : List Char} : LeadingKeys [] rest rest
  | cons {key : SortKey} {keys : List SortKey} {cs before after next rest : List Char} :
      key.Starts cs (before ++ ',' :: (after ++ next)) → (∀ c ∈ before, isBlank c = true) →
      (∀ c ∈ after, isBlank c = true) → LeadingKeys keys next rest →
      LeadingKeys (key :: keys) cs rest

/-- Terms with commas behind them and a term with others behind it are terms with commas between
them. -/
theorem LeadingKeys.spells {keys more : List SortKey} {key : SortKey} {cs mid next rest : List Char}
    (h : LeadingKeys keys cs mid) (hkey : key.Starts mid next) (hmore : MoreSortKeys more next rest) :
    ∃ first others behind, keys ++ key :: more = first :: others ∧ first.Starts cs behind ∧
      MoreSortKeys others behind rest := by
  induction h with
  | nil => exact ⟨key, more, next, rfl, hkey, hmore⟩
  | cons hfirst hbefore hafter _ ih =>
    obtain ⟨first, others, behind, heq, hstarts, hothers⟩ := ih hkey
    refine ⟨_, first :: others, _, ?_, hfirst, .cons hbefore hafter hstarts hothers⟩
    rw [List.cons_append, heq]

/-- A text spells an ordering in which a written name, with this direction and this placement of
NULL, comes behind some terms and before others. -/
def SortsAround (keys : List SortKey) (name : String) (direction : Direction)
    (nulls : Option NullPlacement) (more : List SortKey) (text : List Char) : Prop :=
  ∃ blanks cs words after mid rest, (∀ b ∈ blanks, isBlank b = true) ∧ text = blanks ++ cs ∧
    LeadingKeys keys cs (identifier name ++ after) ∧ words ∈ directionWords direction ∧
    SpacedWords (words ++ placementWords nulls) after mid ∧ MoreSortKeys more mid rest ∧
    ∀ b ∈ rest, isBlank b = true

/-- Neither blanks nor a comma go on a word. -/
theorem EndsSortKey.endsWord {cs : List Char} (h : EndsSortKey cs) : EndsWord cs := by
  apply forall_head?_of_skipBlanks fun c => isNameChar_of_isBlank
  intro c hc
  rw [h c hc]
  decide

theorem SpacedWords.endsWord {words : List String} {cs rest : List Char}
    (h : SpacedWords words cs rest) (hrest : EndsWord rest) : EndsWord cs := by
  cases h with
  | nil => exact hrest
  | @cons _ _ blanks cs' _ _ hne hblanks _ _ =>
    cases blanks with
    | nil => exact absurd rfl hne
    | cons b blanks =>
      rintro _ ⟨⟩
      exact isNameChar_of_isBlank (hblanks b List.mem_cons_self)

/-- The written name is the name of a term between the others. -/
theorem SortsAround.spells {keys more : List SortKey} {name : String} {direction : Direction}
    {nulls : Option NullPlacement} {text : List Char}
    (h : SortsAround keys name direction nulls more text) (hname : Nameable name) :
    ∃ first others, keys ++ ⟨name, direction, nulls⟩ :: more = first :: others ∧
      SpellsSortKeys text first others := by
  obtain ⟨blanks, cs, words, after, mid, rest, hblanks, htext, hleading, hwords, hspaced, hmore,
    hrest⟩ := h
  have hends := hspaced.endsWord (hmore.endsSortKey hrest).endsWord
  have hkey : SortKey.Starts ⟨name, direction, nulls⟩ (identifier name ++ after) mid :=
    .mk (starts_identifier hname fun _ => hends) hwords hspaced
  obtain ⟨first, others, behind, heq, hfirst, hothers⟩ := hleading.spells hkey hmore
  exact ⟨first, others, heq, blanks, cs, behind, rest, hblanks, htext, hfirst, hothers, hrest⟩

/-! ## What a written name stands for -/

/-- The first column of a name is the only one if all names are distinct. -/
theorem named?_of_nodup {t : Table} {c : Column} (hc : c ∈ t.columns)
    (hdistinct : (t.columns.map Column.name).Nodup) : t.named? c.name = some c := by
  obtain ⟨d, hd⟩ := Option.isSome_iff_exists.mp (Table.isSome_named?_iff.mpr ⟨c, hc, rfl⟩)
  have hinj := List.inj_on_of_nodup_map hdistinct
  rw [hd, hinj (Table.mem_of_named? hd) hc (Table.name_of_named? hd)]

variable {t : Table} {name : String} {d : Column}

/-- A condition over a written name is one over the first column of the name. -/
theorem parseFilter_around (hname : Nameable name) (hd : t.named? name = some d)
    {us vs : List Token} {cond : Condition} {text : String}
    (hderives : Derives .condition (us ++ .name name :: vs) cond)
    (htext : ReadsAround us name vs text.toList) :
    ((∃ f, parseFilter t text = .ok f) ↔
      ∀ other ∈ (us ++ vs).filterMap Token.name?, t.Has other) ∧
    ∀ f, parseFilter t text = .ok f →
      f.columnList[(us.filterMap Token.name?).length]? = some d := by
  obtain ⟨rest, hreads, hrest⟩ := htext.reads hname
  have hnames : (us ++ Token.name name :: vs).filterMap Token.name? =
      us.filterMap Token.name? ++ name :: vs.filterMap Token.name? := List.filterMap_append
  have hhas : t.Has name := Table.isSome_named?_iff.mp (hd ▸ rfl)
  rw [parseFilter_of_spells ⟨_, rest, hderives, hreads, hrest⟩]
  rcases cond.resolve_cases t with ⟨f, hok, hf⟩ | ⟨missing, hmissing, herror⟩
  · rw [← hderives.names_eq, hnames] at hf
    rw [hok]
    constructor
    · refine iff_of_true ⟨f, rfl⟩ fun other hother => hf.forall_has other ?_
      rw [List.filterMap_append, List.mem_append] at hother
      rw [List.mem_append]
      exact hother.imp_right (List.mem_cons_of_mem name)
    · rintro _ ⟨⟩
      obtain ⟨b, hb, hnamed⟩ := getElem?_of_forall₂ hf.columns
      rw [hb, ← hnamed, hd]
  · rw [herror]
    refine ⟨iff_of_false nofun fun hall => ?_, nofun⟩
    apply hmissing.not_forall
    rw [← hderives.names_eq, hnames]
    intro other hother
    rcases List.mem_append.mp hother with hother | hother
    · exact hall other (by rw [List.filterMap_append]; exact List.mem_append_left _ hother)
    · rcases List.mem_cons.mp hother with rfl | hother
      · exact hhas
      · exact hall other (by rw [List.filterMap_append]; exact List.mem_append_right _ hother)

/-- An ordering by a written name is one by the first column of the name. -/
theorem parseOrder_around (hname : Nameable name) (hd : t.named? name = some d)
    {keys more : List SortKey} {direction : Direction} {nulls : Option NullPlacement} {text : String}
    (htext : SortsAround keys name direction nulls more text.toList) :
    ((∃ order, parseOrder t text = .ok order) ↔ ∀ key ∈ keys ++ more, t.Has key.column) ∧
    ∀ order, parseOrder t text = .ok order →
      order.terms[keys.length]? = some ⟨.column d, direction, nulls⟩ := by
  obtain ⟨first, others, heq, hspells⟩ := htext.spells hname
  have hhas : t.Has name := Table.isSome_named?_iff.mp (hd ▸ rfl)
  have hterms : ∀ order, parseOrder t text = .ok order ↔ List.Forall₂ (SortKey.Becomes t)
      (keys ++ ⟨name, direction, nulls⟩ :: more) order.terms := by
    intro order
    rw [heq]
    exact parseOrder_eq_ok_iff hspells
  constructor
  · have hall := @SortKey.exists_all_become_iff t (keys ++ ⟨name, direction, nulls⟩ :: more)
    simp only [List.mem_append, List.mem_cons] at hall
    simp only [hterms, List.mem_append]
    constructor
    · rintro ⟨order, horder⟩ key hkey
      exact hall.mp ⟨_, horder⟩ key (hkey.imp_right .inr)
    · intro hkeys
      obtain ⟨terms, hterms⟩ := hall.mpr fun key hkey => by
        rcases hkey with hkey | rfl | hkey
        · exact hkeys key (.inl hkey)
        · exact hhas
        · exact hkeys key (.inr hkey)
      exact ⟨⟨terms⟩, hterms⟩
  · intro order horder
    obtain ⟨⟨expr, direction', nulls'⟩, hterm, hbecomes⟩ :=
      getElem?_of_forall₂ ((hterms order).mp horder)
    obtain ⟨c, hc, rfl⟩ := hbecomes.column
    obtain rfl := Option.some.inj (hd.symm.trans hc)
    obtain rfl := hbecomes.direction
    obtain rfl := hbecomes.nulls
    exact hterm

theorem noBlanks : ∀ c ∈ ([] : List Char), isBlank c = true := nofun

theorem oneBlank : ∀ c ∈ [' '], isBlank c = true := List.forall_mem_singleton.mpr (by decide)

/-- The text that compares a written name with one. -/
def comparedWithOne (name : String) : String := String.ofList (identifier name ++ " = 1".toList)

theorem spells_comparedWithOne (hname : Nameable name) :
    Spells (comparedWithOne name).toList (.compare name .eq (.integer 1)) := by
  have hends : EndsWord " = 1".toList := by
    rintro _ ⟨⟩
    decide
  have hone : (Token.integer 1).Starts ['1'] [] :=
    @Token.Starts.integer false ['1'] _ _ (by decide) (List.forall_mem_singleton.mpr (by decide))
        (by decide)
  have hsign : (Token.sign .eq).Starts "= 1".toList [' ', '1'] :=
    @Token.Starts.sign _ ['='] _ (by decide)
  have hbehind : Reads [.sign .eq, .integer 1] " = 1".toList [] :=
    .cons oneBlank hsign (.cons oneBlank hone .nil)
  rw [comparedWithOne, String.toList_ofList]
  refine ⟨[.name name, .sign .eq, .integer 1], [], ?_, ?_, nofun⟩
  · exact .conjunction (.term (.compare rfl))
  · have hreads := Reads.cons noBlanks (starts_identifier hname fun _ => hends) hbehind
    exact hreads

/-- A written name compared with one is a comparison of the first column of the name. -/
theorem parseFilter_comparedWithOne (hname : Nameable name) (hd : t.named? name = some d) :
    parseFilter t (comparedWithOne name) =
      .ok (.compare .eq (.column d) (.param (.ofSource (.fixed (.value .scalar (.integer 1)))))
        false) := by
  rw [parseFilter_of_spells (spells_comparedWithOne hname), Condition.resolve, Table.column_scalar,
    hd]
  rfl

/-- A written name alone is an ordering by the first column of the name. -/
theorem parseOrder_identifier (hname : Nameable name) (hd : t.named? name = some d) :
    parseOrder t (String.ofList (identifier name)) = .ok ⟨[⟨.column d, .ascending, none⟩]⟩ := by
  have hspells : SpellsSortKeys (String.ofList (identifier name)).toList
      ⟨name, .ascending, none⟩ [] := by
    rw [String.toList_ofList, ← List.append_nil (identifier name)]
    refine ⟨[], _, [], [], nofun, rfl, ?_, .nil, nofun⟩
    exact .mk (starts_identifier hname fun _ => nofun) List.mem_cons_self .nil
  rw [parseOrder_of_spells hspells, SortKey.resolve_of_named hd]
  rfl

/-- A name of a column, written as in statements, stands for the first column of this name, which is
the column itself if all names are distinct, whenever the name is not empty and has no double quote:
compared with one it is a comparison of exactly that column, alone it is an ordering by it, and in any
larger condition or ordering the column stands at the place of the name. A text that begins with any
other name is refused for its syntax. -/
theorem written_name_understood (t : Table) (c : Column) (hc : c ∈ t.columns) :
    ∃ d, t.named? c.name = some d ∧ ((t.columns.map Column.name).Nodup → d = c) ∧
      (Nameable c.name →
        parseFilter t (comparedWithOne c.name) =
          .ok (.compare .eq (.column d) (.param (.ofSource (.fixed (.value .scalar (.integer 1)))))
            false) ∧
        parseOrder t (String.ofList (identifier c.name)) =
          .ok ⟨[⟨.column d, .ascending, none⟩]⟩ ∧
        (∀ us vs cond text, Derives .condition (us ++ .name c.name :: vs) cond →
          ReadsAround us c.name vs text.toList →
          ((∃ f, parseFilter t text = .ok f) ↔
            ∀ other ∈ (us ++ vs).filterMap Token.name?, t.Has other) ∧
          ∀ f, parseFilter t text = .ok f →
            f.columnList[(us.filterMap Token.name?).length]? = some d) ∧
        ∀ keys direction nulls more text,
          SortsAround keys c.name direction nulls more text.toList →
          ((∃ order, parseOrder t text = .ok order) ↔ ∀ key ∈ keys ++ more, t.Has key.column) ∧
          ∀ order, parseOrder t text = .ok order →
            order.terms[keys.length]? = some ⟨.column d, direction, nulls⟩) ∧
      (¬Nameable c.name → ∀ after,
        (∃ fault, parseFilter t (String.ofList (identifier c.name ++ after)) =
          .error (.parse fault)) ∧
        ∃ fault, parseOrder t (String.ofList (identifier c.name ++ after)) =
          .error (.parse fault)) := by
  obtain ⟨d, hd⟩ := Option.isSome_iff_exists.mp (Table.isSome_named?_iff.mpr ⟨c, hc, rfl⟩)
  refine ⟨d, hd, ?only, fun hname => ⟨parseFilter_comparedWithOne hname hd,
    parseOrder_identifier hname hd, ?condition, ?ordering⟩, ?refused⟩
  case only =>
    intro hdistinct
    exact Option.some.inj (hd.symm.trans (named?_of_nodup hc hdistinct))
  case condition =>
    intro us vs cond text hderives htext
    exact parseFilter_around hname hd hderives htext
  case ordering =>
    intro keys direction nulls more text htext
    exact parseOrder_around hname hd htext
  case refused =>
    intro hname after
    constructor
    · apply parseFilter_of_not_spells
      intro cond
      rw [String.toList_ofList]
      exact not_spells_unnameable hname after cond
    · apply parseOrder_of_not_spells
      intro first more
      rw [String.toList_ofList]
      exact not_spellsSortKeys_unnameable hname after first more

/-- A column that is named like a keyword, in parentheses without blanks and behind another term. -/
theorem written_name_understood_of_keyword :
    let t : Table := ⟨⟨0⟩, "t", [⟨"a", .text⟩, ⟨"select", .integer⟩]⟩
    let c : Column := ⟨⟨0⟩, "t", 1, "select", .integer⟩
    parseFilter t "\"select\" = 1" =
        .ok (.compare .eq (.column c) (.param (.ofSource (.fixed (.value .scalar (.integer 1)))))
          false) ∧
      (∃ f, parseFilter t "(\"select\"<2)" = .ok f ∧ f.columnList[0]? = some c) ∧
      ∃ order, parseOrder t "a, \"select\" desc" = .ok order ∧
        order.terms[1]? = some ⟨.column c, .descending, none⟩ := by
  intro t c
  obtain ⟨d, -, honly, hunderstood, -⟩ := written_name_understood t c (by decide)
  obtain rfl := honly (by decide)
  have hname : Nameable c.name := by decide
  obtain ⟨hcompared, -, hconditions, horderings⟩ := hunderstood hname
  have hwritten : identifier c.name = "\"select\"".toList := by decide +kernel
  have hends : ∀ after, EndsWritten c.name after := by
    intro after hquotes
    have hneeds : needsQuotes c.name.toList = true := by decide +kernel
    rw [hneeds] at hquotes
    cases hquotes
  refine ⟨?compared, ?condition, ?ordering⟩
  case compared =>
    rw [comparedWithOne, hwritten] at hcompared
    exact hcompared
  case condition =>
    have hsign : (Token.sign .lt).Starts "<2)".toList ['2', ')'] :=
      @Token.Starts.sign _ ['<'] _ (by decide)
    have htwo : (Token.integer 2).Starts ['2', ')'] [')'] :=
      @Token.Starts.integer false ['2'] _ _ (by decide) (List.forall_mem_singleton.mpr (by decide))
        (by decide)
    have hbehind : Reads [.sign .lt, .integer 2, .closing] "<2)".toList [] :=
      .cons noBlanks hsign (.cons noBlanks htwo (.cons noBlanks .closing .nil))
    have htext : ReadsAround [.opening] c.name [.sign .lt, .integer 2, .closing]
        "(\"select\"<2)".toList := by
      refine ⟨[], "<2)".toList, [], nofun, ?_, hends _, hbehind, nofun⟩
      rw [hwritten]
      exact .cons noBlanks .opening .nil
    have hderives : Derives .condition [.opening, .name c.name, .sign .lt, .integer 2, .closing]
        (.compare c.name .lt (.integer 2)) :=
      .conjunction (.term (.parentheses (.conjunction (.term (.compare rfl)))))
    obtain ⟨hok, hcolumn⟩ := hconditions _ _ _ _ hderives htext
    obtain ⟨f, hf⟩ := hok.mpr nofun
    exact ⟨f, hf, hcolumn f hf⟩
  case ordering =>
    have hfirst : (Token.name "a").Starts "a, \"select\" desc".toList ", \"select\" desc".toList :=
      @Token.Starts.bareName ['a'] _ (by decide) (List.forall_mem_singleton.mpr (by decide))
        (by rintro _ ⟨⟩; decide)
    have hleading : LeadingKeys [⟨"a", .ascending, none⟩] "a, \"select\" desc".toList
        (identifier c.name ++ " desc".toList) := by
      rw [hwritten]
      exact @LeadingKeys.cons _ _ _ [] [' '] _ _ (.mk hfirst List.mem_cons_self .nil) noBlanks
        oneBlank .nil
    have hdesc : SpacedWords ["desc"] " desc".toList [] :=
      .cons (by decide) oneBlank
        ⟨"desc".toList, rfl, by decide, nofun⟩ .nil
    have htext : SortsAround [⟨"a", .ascending, none⟩] c.name .descending none []
        "a, \"select\" desc".toList :=
      ⟨[], _, ["desc"], _, [], [], nofun, rfl, hleading, List.mem_cons_self, hdesc, .nil, nofun⟩
    obtain ⟨hok, hterm⟩ := horderings _ _ _ _ _ htext
    obtain ⟨order, horder⟩ := hok.mpr (by decide)
    exact ⟨order, horder, hterm order horder⟩

/-- A column `a"b` is written with its quote doubled, and the written name is not understood. -/
theorem quoted_quote_refused :
    let t : Table := ⟨⟨0⟩, "t", [⟨"a\"b", .integer⟩]⟩
    (∃ c ∈ t.columns, c.name = "a\"b" ∧ identifier c.name = "\"a\"\"b\"".toList) ∧
      (∃ fault, parseFilter t "\"a\"\"b\" = 1" = .error (.parse fault)) ∧
      ∃ fault, parseOrder t "\"a\"\"b\"" = .error (.parse fault) := by
  intro t
  have hname : ¬Nameable "a\"b" := by decide
  have hwritten : identifier "a\"b" = "\"a\"\"b\"".toList := by decide +kernel
  refine ⟨⟨⟨⟨0⟩, "t", 0, "a\"b", .integer⟩, by decide, rfl, hwritten⟩, ?_, ?_⟩
  · apply parseFilter_of_not_spells
    intro cond
    have hnone := not_spells_unnameable hname " = 1".toList cond
    rwa [hwritten] at hnone
  · apply parseOrder_of_not_spells
    intro first more
    have hnone := not_spellsSortKeys_unnameable hname [] first more
    rwa [hwritten] at hnone

end Search

end TypedQuery
