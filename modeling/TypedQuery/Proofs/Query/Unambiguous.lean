import TypedQuery.Proofs.Query.Skeleton
import TypedQuery.Proofs.Sql.Delimiting

/-!
# The text of a query determines its skeleton

Every kind of piece that a statement is put together from ends where the next one begins, whatever
characters its names are made of. So equal texts come from equal skeletons, and no name can close
its own quotes and change the rest of the statement.
-/

set_option autoImplicit false

namespace TypedQuery.Skeleton

open TypedQuery.Sql TypedQuery.Text

/-! ## Columns and expressions -/

/-- A dot ends a name. -/
theorem afterName_dot (r : List Char) : AfterName ('.' :: r) := by
  rintro c ⟨⟩
  decide

/-- Where a column ends, and which one it is, is told from its text. -/
theorem Column.delimits : Delimits AfterName Column.sql := by
  rintro ⟨table, name⟩ ⟨table', name'⟩ r s hr hs heq
  simp only [Column.sql, List.append_assoc, List.cons_append] at heq
  obtain ⟨rfl, hrest⟩ := delimits_identifier (afterName_dot _) (afterName_dot _) heq
  obtain ⟨rfl, hrs⟩ := delimits_identifier hr hs (List.cons.inj hrest).2
  exact ⟨rfl, hrs⟩

/-- A column begins like a name. -/
theorem Column.opens (c : Column) : Opens c.sql := (opens_identifier c.table).append _

/-- A word in front of anything but a name or a dot does not begin a column. -/
theorem Column.word_append_ne {w r s : List Char} {c : Column} (hw : w.all isNameChar = true)
    (hne : w ≠ []) (hr : ∀ x ∈ r.head?, isNameChar x = false ∧ x ≠ '.') :
    w ++ r ≠ c.sql ++ s := by
  intro heq
  rw [Column.sql, List.append_assoc, List.cons_append] at heq
  have hdot := word_append_eq_identifier_append hw hne (fun x hx => (hr x hx).1)
    (afterName_dot _) heq
  exact (hr '.' (by rw [hdot]; rfl)).2 rfl

/-- Whether an aggregate counts distinct values is told in front of its column. -/
theorem distinctSql_append_inj {d e : Bool} {c c' : Column} {r s : List Char}
    (h : distinctSql d ++ (c.sql ++ r) = distinctSql e ++ (c'.sql ++ s)) :
    d = e ∧ c.sql ++ r = c'.sql ++ s := by
  have hword : ∀ {c : Column} {r s : List Char},
      "DISTINCT".toList ++ ' ' :: r ≠ c.sql ++ s := by
    intro c r s
    refine Column.word_append_ne (by decide) (by decide) ?_
    rintro x ⟨⟩
    decide
  cases d with
  | false =>
    cases e with
    | false => exact ⟨rfl, h⟩
    | true => exact absurd h.symm hword
  | true =>
    cases e with
    | false => exact absurd h hword
    | true => exact ⟨rfl, List.append_cancel_left h⟩

/-- The name of an aggregate is made of letters. -/
theorem aggregate_all_isNameChar (function : Aggregate) :
    function.sql.toList.all isNameChar = true := by
  cases function <;> decide

/-- The name of an aggregate is not empty. -/
theorem aggregate_ne_nil (function : Aggregate) : function.sql.toList ≠ [] := by
  cases function <;> decide

/-- An aggregate is told from its name in front of the parenthesis. -/
theorem aggregate_append_inj {f g : Aggregate} {r s : List Char}
    (h : f.sql.toList ++ '(' :: r = g.sql.toList ++ '(' :: s) : f = g ∧ r = s := by
  have hparen : ∀ rest : List Char, ∀ x ∈ ('(' :: rest).head?, isNameChar x = false := by
    rintro rest x ⟨⟩
    decide
  obtain ⟨hword, hrest⟩ := append_inj_of_run isNameChar
    (List.all_eq_true.mp (aggregate_all_isNameChar f))
    (List.all_eq_true.mp (aggregate_all_isNameChar g)) (hparen r) (hparen s) h
  refine ⟨?_, (List.cons.inj hrest).2⟩
  revert hword
  cases f <;> cases g <;> decide

/-- An aggregate is not taken for a column. -/
theorem aggregate_append_ne_column (function : Aggregate) {c : Column} {r s : List Char} :
    function.sql.toList ++ '(' :: r ≠ c.sql ++ s := by
  refine Column.word_append_ne (aggregate_all_isNameChar function)
    (aggregate_ne_nil function) ?_
  rintro x ⟨⟩
  decide

/-- Where a column or an aggregate ends, and which one it is, is told from its text. -/
theorem Expr.delimits : Delimits AfterName Expr.sql := by
  intro a b r s hr hs heq
  cases a with
  | column c =>
    cases b with
    | column c' =>
      obtain ⟨rfl, hrs⟩ := Column.delimits hr hs heq
      exact ⟨rfl, hrs⟩
    | aggregate function c' distinct =>
      simp only [Expr.sql, List.append_assoc, List.cons_append] at heq
      exact absurd heq.symm (aggregate_append_ne_column function)
  | aggregate function c distinct =>
    cases b with
    | column c' =>
      simp only [Expr.sql, List.append_assoc, List.cons_append] at heq
      exact absurd heq (aggregate_append_ne_column function)
    | aggregate function' c' distinct' =>
      simp only [Expr.sql, List.append_assoc, List.cons_append] at heq
      obtain ⟨rfl, hrest⟩ := aggregate_append_inj heq
      obtain ⟨rfl, hcolumn⟩ := distinctSql_append_inj hrest
      obtain ⟨rfl, hclose⟩ := Column.delimits (ends_cons (by decide)).afterName
        (ends_cons (by decide)).afterName hcolumn
      exact ⟨rfl, (List.cons.inj hclose).2⟩

/-- An expression begins like a name. -/
theorem Expr.opens (e : Expr) : Opens e.sql := by
  cases e with
  | column c => exact c.opens
  | aggregate function c distinct =>
    cases function <;> exact opens_cons (Or.inl (by decide))

/-! ## Conditions -/

/-- A placeholder is told from its number, in front of anything but a digit. -/
theorem placeholderSql_delimits : Delimits NoDigitFirst placeholderSql :=
  fun _ _ _ _ hr hs heq => delimits_toDigits hr hs (List.cons.inj heq).2

/-- An expression is not the literal NULL: what goes on its first word is no end. -/
theorem Expr.sql_append_ne_null {e : Expr} {r s : List Char} (hr : Ends r) :
    "NULL".toList ++ r ≠ e.sql ++ s := by
  have hafter : ∀ x ∈ r.head?, isNameChar x = false ∧ x ≠ '.' := by
    intro x hx
    rcases hr x hx with rfl | rfl | rfl <;> decide
  cases e with
  | column c => exact Column.word_append_ne (by decide) (by decide) hafter
  | aggregate function c distinct =>
    intro heq
    simp only [Expr.sql, List.append_assoc, List.cons_append] at heq
    have hparen : ∀ rest : List Char, ∀ x ∈ ('(' :: rest).head?, isNameChar x = false := by
      rintro rest x ⟨⟩
      decide
    have hnull : "NULL".toList.all isNameChar = true := by decide
    obtain ⟨-, hrest⟩ := append_inj_of_run isNameChar (List.all_eq_true.mp hnull)
      (List.all_eq_true.mp (aggregate_all_isNameChar function)) (fun x hx => (hafter x hx).1)
      (hparen _) heq
    rw [hrest] at hr
    exact absurd (hr '(' rfl) (by decide)

/-- Where an operand ends, and which one it is, is told from its text. -/
theorem Operand.delimits : Delimits Ends Operand.sql := by
  intro a b r s hr hs heq
  cases a with
  | expr e =>
    cases b with
    | expr e' =>
      obtain ⟨rfl, hrs⟩ := Expr.delimits hr.afterName hs.afterName heq
      exact ⟨rfl, hrs⟩
    | placeholder n => exact absurd heq ((e.opens.append r).ne_cons _ (by decide) (by decide))
    | null => exact absurd heq.symm (Expr.sql_append_ne_null hs)
  | placeholder n =>
    cases b with
    | expr e => exact absurd heq.symm ((e.opens.append s).ne_cons _ (by decide) (by decide))
    | placeholder m =>
      obtain ⟨rfl, hrs⟩ := placeholderSql_delimits hr.noDigitFirst hs.noDigitFirst heq
      exact ⟨rfl, hrs⟩
    | null => exact absurd (List.cons.inj heq).1 (by decide)
  | null =>
    cases b with
    | expr e => exact absurd heq (Expr.sql_append_ne_null hr)
    | placeholder m => exact absurd (List.cons.inj heq).1 (by decide)
    | null => exact ⟨rfl, List.append_cancel_left heq⟩

/-- A comparison is told from its sign in front of a blank. -/
theorem comparison_append_inj {op op' : Comparison} {r s : List Char}
    (h : op.sql.toList ++ ' ' :: r = op'.sql.toList ++ ' ' :: s) : op = op' ∧ r = s := by
  refine spaced_append_inj (w := fun op : Comparison => op.sql.toList) ?_ h
  intro a b
  cases a <;> cases b <;> decide

/-- A comparison is told from the other predicates by its sign. -/
theorem Predicate.compared_append_ne {op : Comparison} {right : Operand} {c : Char}
    {r s : List Char} (hc : isNameChar c = true) :
    (Predicate.compared op right).sql ++ r ≠ c :: s := by
  intro heq
  cases op <;> rw [← (List.cons.inj heq).1] at hc <;> exact absurd hc (by decide)

/-- Where a predicate ends, and which one it is, is told from its text. -/
theorem Predicate.delimits : Delimits Ends Predicate.sql := by
  intro a b r s hr hs heq
  cases a with
  | compared op right =>
    cases b with
    | compared op' right' =>
      have hwords : op.sql.toList ++ ' ' :: (right.sql ++ r) =
          op'.sql.toList ++ ' ' :: (right'.sql ++ s) := by
        simpa only [List.append_assoc, List.cons_append] using
          (show (op.sql.toList ++ ' ' :: right.sql) ++ r =
            (op'.sql.toList ++ ' ' :: right'.sql) ++ s from heq)
      obtain ⟨rfl, hright⟩ := comparison_append_inj hwords
      obtain ⟨rfl, hrs⟩ := Operand.delimits hr hs hright
      exact ⟨rfl, hrs⟩
    | isNull => exact absurd heq (compared_append_ne (c := 'I') (by decide))
    | isNotNull => exact absurd heq (compared_append_ne (c := 'I') (by decide))
    | like n => exact absurd heq (compared_append_ne (c := 'L') (by decide))
  | isNull =>
    cases b with
    | compared op right => exact absurd heq.symm (compared_append_ne (c := 'I') (by decide))
    | isNull => exact ⟨rfl, List.append_cancel_left heq⟩
    | isNotNull =>
      have hwords : "IS NULL".toList ++ r = "IS NOT NULL".toList ++ s := heq
      simp at hwords
    | like n =>
      have hwords : "IS NULL".toList ++ r = "LIKE ".toList ++ placeholderSql n ++ s := heq
      simp at hwords
  | isNotNull =>
    cases b with
    | compared op right => exact absurd heq.symm (compared_append_ne (c := 'I') (by decide))
    | isNull =>
      have hwords : "IS NOT NULL".toList ++ r = "IS NULL".toList ++ s := heq
      simp at hwords
    | isNotNull => exact ⟨rfl, List.append_cancel_left heq⟩
    | like n =>
      have hwords : "IS NOT NULL".toList ++ r = "LIKE ".toList ++ placeholderSql n ++ s := heq
      simp at hwords
  | like n =>
    cases b with
    | compared op right => exact absurd heq.symm (compared_append_ne (c := 'L') (by decide))
    | isNull =>
      have hwords : "LIKE ".toList ++ placeholderSql n ++ r = "IS NULL".toList ++ s := heq
      simp at hwords
    | isNotNull =>
      have hwords : "LIKE ".toList ++ placeholderSql n ++ r = "IS NOT NULL".toList ++ s := heq
      simp at hwords
    | like m =>
      have hwords : "LIKE ".toList ++ (placeholderSql n ++ r) =
          "LIKE ".toList ++ (placeholderSql m ++ s) := heq
      obtain ⟨rfl, hrs⟩ := placeholderSql_delimits hr.noDigitFirst hs.noDigitFirst
        (List.append_cancel_left hwords)
      exact ⟨rfl, hrs⟩

/-! ## Filters -/

/-- An operand does not begin with a parenthesis. -/
theorem Operand.sql_append_ne_paren (o : Operand) {r s : List Char} : o.sql ++ r ≠ '(' :: s := by
  intro heq
  cases o with
  | expr e => exact absurd heq ((e.opens.append r).ne_cons s (by decide) (by decide))
  | placeholder n => exact absurd (List.cons.inj heq).1 (by decide)
  | null => exact absurd (List.cons.inj heq).1 (by decide)

/-- A connective is told from its word in front of a blank. -/
theorem connective_append_inj {op op' : Connective} {r s : List Char}
    (h : op.sql.toList ++ ' ' :: r = op'.sql.toList ++ ' ' :: s) : op = op' ∧ r = s := by
  refine spaced_append_inj (w := fun op : Connective => op.sql.toList) ?_ h
  intro a b
  cases a <;> cases b <;> decide

/-- A filter ends where its text does: a connective stands between parentheses, so the tree can be
read back from the text. -/
theorem Filter.delimits : Delimits Ends Filter.sql := by
  intro a
  induction a with
  | condition left predicate =>
    intro b r s hr hs heq
    cases b with
    | condition left' predicate' =>
      simp only [Filter.sql, List.append_assoc, List.cons_append] at heq
      obtain ⟨rfl, hrest⟩ := Operand.delimits (ends_cons (by decide)) (ends_cons (by decide)) heq
      obtain ⟨rfl, hrs⟩ := Predicate.delimits hr hs (List.cons.inj hrest).2
      exact ⟨rfl, hrs⟩
    | logical op' left' right' =>
      simp only [Filter.sql, List.append_assoc, List.cons_append] at heq
      exact absurd heq left.sql_append_ne_paren
  | logical op left right ihleft ihright =>
    intro b r s hr hs heq
    cases b with
    | condition left' predicate' =>
      simp only [Filter.sql, List.append_assoc, List.cons_append] at heq
      exact absurd heq.symm left'.sql_append_ne_paren
    | logical op' left' right' =>
      simp only [Filter.sql, List.append_assoc, List.cons_append] at heq
      obtain ⟨rfl, hop⟩ := ihleft (ends_cons (by decide)) (ends_cons (by decide))
        (List.cons.inj heq).2
      obtain ⟨rfl, hright⟩ := connective_append_inj (List.cons.inj hop).2
      obtain ⟨rfl, hclose⟩ := ihright (ends_cons (by decide)) (ends_cons (by decide)) hright
      exact ⟨rfl, (List.cons.inj hclose).2⟩

/-! ## Lists of names, columns and expressions -/

/-- A comma goes on a list. -/
theorem not_closes_comma (x : List Char) : ¬Closes (',' :: x) := by
  intro h
  exact absurd (h ',' rfl) (by decide)

/-- What goes on a list, or closes it, ends an item. -/
theorem ends_of_comma_or_closes {r : List Char} (h : (∃ x, r = ',' :: x) ∨ Closes r) : Ends r := by
  rcases h with ⟨x, rfl⟩ | h
  · exact ends_cons (by decide)
  · exact h.ends

/-- A list of pieces that open like a name ends where something follows that closes it. -/
theorem delimits_list {α : Type} {text : α → List Char} (hitem : Delimits AfterName text)
    (hopen : ∀ a, Opens (text a)) :
    Delimits Closes fun items : List α => separated ", " (items.map text) :=
  delimits_separated (hitem.mono fun _ h => (ends_of_comma_or_closes h).afterName)
    not_closes_comma fun a x => ((hopen a).append x).not_closes

/-- A list of names is told from its text. -/
theorem delimits_namesSql : Delimits Closes namesSql :=
  delimits_list delimits_identifier opens_identifier

/-! ## Joins -/

/-- The kind of a join is told from its words in front of a blank. -/
theorem joinKind_append_inj {kind kind' : JoinKind} {r s : List Char}
    (h : kind.sql.toList ++ ' ' :: r = kind'.sql.toList ++ ' ' :: s) : kind = kind' ∧ r = s := by
  refine spaced_append_inj (w := fun kind : JoinKind => kind.sql.toList) ?_ h
  intro a b
  cases a <;> cases b <;> decide

/-- The first words of the clauses that come last. -/
def trailingWords : List String := ["ORDER", "LIMIT"]

/-- The first words of what may follow one part of a selection. -/
def partWords : List String := "UNION" :: "INTERSECT" :: "EXCEPT" :: trailingWords

/-- The first words of what may follow a chain of joins. -/
def chainWords : List String := "WHERE" :: "GROUP" :: "HAVING" :: partWords

/-- The first words of what may follow one join. -/
def joinWords : List String :=
  "CROSS" :: "LEFT" :: "RIGHT" :: "FULL" :: "INNER" :: "NATURAL" :: chainWords

/-- The constraint of a join is told from its text. -/
theorem Constraint.delimits : Delimits Ends Constraint.sql := by
  intro a b r s hr hs heq
  cases a with
  | condition f =>
    cases b with
    | condition g =>
      have hfilters : " ON ".toList ++ (f.sql ++ r) = " ON ".toList ++ (g.sql ++ s) := heq
      obtain ⟨rfl, hrs⟩ := Filter.delimits hr hs (List.append_cancel_left hfilters)
      exact ⟨rfl, hrs⟩
    | shared names =>
      have hwords : " ON ".toList ++ f.sql ++ r =
          " USING (".toList ++ (namesSql names ++ [')']) ++ s := heq
      simp at hwords
  | shared names =>
    cases b with
    | condition g =>
      have hwords : " USING (".toList ++ (namesSql names ++ [')']) ++ r =
          " ON ".toList ++ g.sql ++ s := heq
      simp at hwords
    | shared names' =>
      have hnames : " USING (".toList ++ (namesSql names ++ ')' :: r) =
          " USING (".toList ++ (namesSql names' ++ ')' :: s) := by
        simpa only [List.append_assoc, List.cons_append, List.nil_append] using
          (show " USING (".toList ++ (namesSql names ++ [')']) ++ r =
            " USING (".toList ++ (namesSql names' ++ [')']) ++ s from heq)
      obtain ⟨rfl, hclose⟩ := delimits_namesSql (closes_cons (by decide))
        (closes_cons (by decide)) (List.append_cancel_left hnames)
      exact ⟨rfl, (List.cons.inj hclose).2⟩

/-- A constraint begins with a word that nothing else after a join begins with. -/
theorem Constraint.not_follows (c : Constraint) (x : List Char) : ¬Follows joinWords (c.sql ++ x) := by
  cases c with
  | condition f =>
    have hstart : StartsWith "ON" (" ON ".toList ++ (f.sql ++ x)) := ⟨rfl, rfl⟩
    exact hstart.not_follows (by decide)
  | shared names =>
    have hstart : StartsWith "USING" (" USING (".toList ++ (namesSql names ++ [')'] ++ x)) :=
      ⟨rfl, rfl⟩
    exact hstart.not_follows (by decide)

/-- Whether a join has a constraint, and which one, is told from its text. -/
theorem delimits_constraint : Delimits (Follows joinWords)
    fun c : Option Constraint => clauseSql "" (c.map Constraint.sql) :=
  delimits_clauseSql (fun c x => c.not_follows x)
    (Constraint.delimits.mono fun _ h => h.closes.ends)

/-- What follows the table of a join ends its name. -/
theorem afterName_constraint (c : Option Constraint) {r : List Char} (hr : Follows joinWords r) :
    AfterName (clauseSql "" (c.map Constraint.sql) ++ r) := by
  rcases c with _ | ⟨f | names⟩
  · exact hr.closes.ends.afterName
  · exact (ends_cons (c := ' ') (by decide)).afterName
  · exact (ends_cons (c := ' ') (by decide)).afterName

/-- A join is told from its text. -/
theorem Join.delimits : Delimits (Follows joinWords) Join.sql := by
  rintro ⟨kind, right, constraint⟩ ⟨kind', right', constraint'⟩ r s hr hs heq
  simp only [Join.sql, List.append_assoc, List.cons_append] at heq
  obtain ⟨rfl, hright⟩ := joinKind_append_inj (List.cons.inj heq).2
  obtain ⟨rfl, hconstraint⟩ := delimits_identifier (afterName_constraint _ hr)
    (afterName_constraint _ hs) hright
  obtain ⟨rfl, hrs⟩ := delimits_constraint hr hs hconstraint
  exact ⟨rfl, hrs⟩

/-- The first word of a kind of join. -/
def leadWord : JoinKind → String
  | .cross => "CROSS"
  | .left => "LEFT"
  | .right => "RIGHT"
  | .full => "FULL"
  | .inner => "INNER"
  | .naturalLeft | .naturalRight | .naturalFull | .naturalInner => "NATURAL"

/-- The first word of a join is that of its kind. -/
theorem lead_joinKind (kind : JoinKind) (x : List Char) :
    lead (' ' :: (kind.sql.toList ++ ' ' :: x)) = (leadWord kind).toList := by
  cases kind <;> rfl

/-- A join starts with the word of its kind. -/
theorem Join.startsWith (j : Join) (x : List Char) :
    StartsWith (leadWord j.kind) (j.sql ++ x) := by
  rw [Join.sql, List.cons_append, List.append_assoc]
  exact ⟨rfl, lead_joinKind _ _⟩

/-- A join may follow a join. -/
theorem Join.follows (j : Join) (r : List Char) : Follows joinWords (j.sql ++ r) := by
  refine (j.startsWith r).follows ?_
  cases j.kind <;> decide

/-- A chain of joins is told from its text, in front of any other clause. -/
theorem delimits_joins : Delimits (Follows chainWords)
    fun joins : List Join => joins.flatMap Join.sql := by
  refine delimits_flatMap Join.delimits (fun r hr => hr.mono (by decide))
    (fun j r _ => j.follows r) ?_
  intro j x
  refine (j.startsWith x).not_follows ?_
  cases j.kind <;> decide

/-! ## Parts -/

/-- A clause that holds a list or a condition ends at the first word of what may follow it. -/
theorem delimits_keyword {α : Type} {words : List String} {w keyword : String}
    {text : α → List Char} (hk : ∀ x, StartsWith w (keyword.toList ++ x)) (hw : w ∉ words)
    (htext : Delimits Closes text) :
    Delimits (Follows words) fun clause : Option α => clauseSql keyword (clause.map text) :=
  delimits_clauseSql (fun _ _ => (hk _).not_follows hw) (htext.mono fun _ h => h.closes)

/-- The keyword of the filter. -/
theorem where_startsWith (x : List Char) : StartsWith "WHERE" (" WHERE ".toList ++ x) := ⟨rfl, rfl⟩

/-- The keyword of the grouping. -/
theorem group_startsWith (x : List Char) : StartsWith "GROUP" (" GROUP BY ".toList ++ x) :=
  ⟨rfl, rfl⟩

/-- The keyword of the filter of groups. -/
theorem having_startsWith (x : List Char) : StartsWith "HAVING" (" HAVING ".toList ++ x) :=
  ⟨rfl, rfl⟩

/-- A filter in a clause is told from its text. -/
theorem delimits_filterClause : Delimits Closes Filter.sql :=
  Filter.delimits.mono fun _ h => h.ends

/-- A list of columns is told from its text. -/
theorem delimits_columns :
    Delimits Closes fun columns : List Column => separated ", " (columns.map Column.sql) :=
  delimits_list Column.delimits Column.opens

/-- A part of a selection is told from its text. -/
theorem Part.delimits : Delimits (Follows partWords) Part.sql := by
  rintro ⟨columns, first, joins, filter, groupBy, having⟩
    ⟨columns', first', joins', filter', groupBy', having'⟩ r s hr hs heq
  unfold Part.sql at heq
  simp only [List.append_assoc] at heq
  have hhaving : ∀ (f : Option Filter) {r : List Char}, Follows partWords r →
      Follows ("HAVING" :: partWords) (clauseSql " HAVING " (f.map Filter.sql) ++ r) :=
    fun f _ h => follows_clauseSql having_startsWith _ h
  have hgroup : ∀ (cs : Option (List Column)) {r : List Char}, Follows ("HAVING" :: partWords) r →
      Follows ("GROUP" :: "HAVING" :: partWords)
        (clauseSql " GROUP BY " (cs.map fun cs => separated ", " (cs.map Column.sql)) ++ r) :=
    fun cs _ h => follows_clauseSql group_startsWith _ h
  have hwhere : ∀ (f : Option Filter) {r : List Char},
      Follows ("GROUP" :: "HAVING" :: partWords) r →
      Follows chainWords (clauseSql " WHERE " (f.map Filter.sql) ++ r) :=
    fun f _ h => follows_clauseSql where_startsWith _ h
  have hjoins : ∀ (js : List Join) {r : List Char}, Follows chainWords r →
      AfterName (js.flatMap Join.sql ++ r) := by
    intro js r h
    have hjoin : Follows joinWords r := h.mono (by decide)
    exact (after_flatMap (fun j r _ => j.follows r) js hjoin).closes.ends.afterName
  have hcolumns : ∀ x : List Char, Closes (" FROM ".toList ++ x) :=
    fun _ => closes_cons (c := ' ') (by decide)
  obtain ⟨rfl, hfrom⟩ := delimits_list Expr.delimits Expr.opens (hcolumns _) (hcolumns _)
    (List.append_cancel_left heq)
  obtain ⟨rfl, hchain⟩ := delimits_identifier
    (hjoins _ (hwhere _ (hgroup _ (hhaving _ hr)))) (hjoins _ (hwhere _ (hgroup _ (hhaving _ hs))))
    (List.append_cancel_left hfrom)
  obtain ⟨rfl, hclauses⟩ := delimits_joins (hwhere _ (hgroup _ (hhaving _ hr)))
    (hwhere _ (hgroup _ (hhaving _ hs))) hchain
  obtain ⟨rfl, hgroups⟩ := delimits_keyword where_startsWith (by decide) delimits_filterClause
    (hgroup _ (hhaving _ hr)) (hgroup _ (hhaving _ hs)) hclauses
  obtain ⟨rfl, hlast⟩ := delimits_keyword group_startsWith (by decide) delimits_columns
    (hhaving _ hr) (hhaving _ hs) hgroups
  obtain ⟨rfl, hrs⟩ := delimits_keyword having_startsWith (by decide) delimits_filterClause hr hs
    hlast
  exact ⟨rfl, hrs⟩

/-! ## Orderings and limits -/

/-- What may follow a term of an ordering. -/
def AfterTerm (r : List Char) : Prop := (∃ x, r = ',' :: x) ∨ Follows ["LIMIT"] r

/-- A direction is told from its word. -/
theorem delimits_direction : Delimits (fun _ => True) fun d : Direction => d.sql.toList := by
  refine delimits_of_prefixFree ?_
  intro a b
  cases a <;> cases b <;> decide

/-- Where NULL is placed, if it is said, is told from its words. -/
theorem delimits_nulls : Delimits AfterTerm
    fun nulls : Option NullPlacement => clauseSql " " (nulls.map fun n => n.sql.toList) := by
  refine delimits_clauseSql ?_ ?_
  · rintro n x (⟨y, heq⟩ | hlimit)
    · exact absurd (List.cons.inj heq).1 (by decide)
    · have hstart : StartsWith "NULLS" (" ".toList ++ (n.sql.toList ++ x)) := by
        cases n <;> exact ⟨rfl, rfl⟩
      exact hstart.not_follows (by decide) hlimit
  · refine Delimits.mono (delimits_of_prefixFree ?_) fun _ _ => trivial
    intro a b
    cases a <;> cases b <;> decide

/-- A term of an ordering is told from its text. -/
theorem OrderTerm.delimits : Delimits AfterTerm OrderTerm.sql := by
  rintro ⟨expr, direction, nulls⟩ ⟨expr', direction', nulls'⟩ r s hr hs heq
  have hspace : ∀ x : List Char, AfterName (' ' :: x) :=
    fun _ => (ends_cons (by decide)).afterName
  unfold OrderTerm.sql at heq
  simp only [List.append_assoc, List.cons_append] at heq
  obtain ⟨rfl, hdirection⟩ := Expr.delimits (hspace _) (hspace _) heq
  obtain ⟨rfl, hnulls⟩ := delimits_direction trivial trivial (List.cons.inj hdirection).2
  obtain ⟨rfl, hrs⟩ := delimits_nulls hr hs hnulls
  exact ⟨rfl, hrs⟩

/-- A term of an ordering begins like a name. -/
theorem OrderTerm.opens (term : OrderTerm) : Opens term.sql := term.expr.opens.append _

/-- The terms of an ordering are told from their text, in front of a limit or the end. -/
theorem delimits_orderTerms : Delimits (Follows ["LIMIT"])
    fun terms : List OrderTerm => separated ", " (terms.map OrderTerm.sql) :=
  delimits_separated OrderTerm.delimits (fun x h => not_closes_comma x h.closes)
    fun term x h => (term.opens.append x).not_closes h.closes

/-- A limit is told from its numbers. -/
theorem delimits_limitSql : Delimits NoDigitFirst limitSql := by
  rintro ⟨count, offset⟩ ⟨count', offset'⟩ r s hr hs heq
  have hword : ∀ x : List Char, NoDigitFirst (" OFFSET ".toList ++ x) :=
    fun _ => noDigitFirst_cons (by decide)
  unfold limitSql at heq
  simp only [List.append_assoc] at heq
  obtain ⟨rfl, hoffset⟩ := delimits_toDigits (hword _) (hword _) heq
  obtain ⟨rfl, hrs⟩ := delimits_toDigits hr hs (List.append_cancel_left hoffset)
  exact ⟨rfl, hrs⟩

/-- The keyword of the ordering. -/
theorem order_startsWith (x : List Char) : StartsWith "ORDER" (" ORDER BY ".toList ++ x) :=
  ⟨rfl, rfl⟩

/-- The keyword of the limit. -/
theorem limit_startsWith (x : List Char) : StartsWith "LIMIT" (" LIMIT ".toList ++ x) := ⟨rfl, rfl⟩

/-- Whether there is a limit, and which one, is told from the text. -/
theorem delimits_limitClause : Delimits (Follows [])
    fun limit : Option Limit => clauseSql " LIMIT " (limit.map limitSql) :=
  delimits_clauseSql (fun _ _ => (limit_startsWith _).not_follows (by decide))
    (delimits_limitSql.mono fun _ h => h.closes.ends.noDigitFirst)

/-- Whether there is an ordering, and which one, is told from the text. -/
theorem delimits_orderClause : Delimits (Follows ["LIMIT"]) fun orderBy : Option (List OrderTerm) =>
    clauseSql " ORDER BY " (orderBy.map fun terms => separated ", " (terms.map OrderTerm.sql)) :=
  delimits_clauseSql (fun _ _ => (order_startsWith _).not_follows (by decide)) delimits_orderTerms

/-- The ordering and the limit are told from their text. -/
theorem Trailing.delimits : Delimits (Follows []) Trailing.sql := by
  rintro ⟨orderBy, limit⟩ ⟨orderBy', limit'⟩ r s hr hs heq
  have hlimit : ∀ (l : Option Limit) {r : List Char}, Follows [] r →
      Follows ["LIMIT"] (clauseSql " LIMIT " (l.map limitSql) ++ r) :=
    fun l _ h => follows_clauseSql limit_startsWith _ h
  unfold Trailing.sql at heq
  simp only [List.append_assoc] at heq
  obtain ⟨rfl, hlast⟩ := delimits_orderClause (hlimit _ hr) (hlimit _ hs) heq
  obtain ⟨rfl, hrs⟩ := delimits_limitClause hr hs hlast
  exact ⟨rfl, hrs⟩

/-- The ordering and the limit start with their keywords. -/
theorem Trailing.follows (t : Trailing) : Follows trailingWords t.sql := by
  have hlimit : Follows ["LIMIT"] (clauseSql " LIMIT " (t.limit.map limitSql)) := by
    have h := follows_clauseSql limit_startsWith (t.limit.map limitSql) (follows_nil [])
    rwa [List.append_nil] at h
  exact follows_clauseSql order_startsWith _ hlimit

/-! ## Selections -/

/-- A set operator is told from its words in front of the next selection. -/
theorem setOperator_append_inj {op op' : SetOperator} {r s : List Char}
    (h : op.sql.toList ++ ' ' :: ("SELECT ".toList ++ r) =
      op'.sql.toList ++ ' ' :: ("SELECT ".toList ++ s)) : op = op' ∧ r = s := by
  have hfree : ∀ a b : SetOperator, a.sql.toList ++ " SELECT ".toList <+:
      b.sql.toList ++ " SELECT ".toList → a = b := by
    intro a b
    cases a <;> cases b <;> decide
  refine delimits_of_prefixFree hfree trivial trivial ?_
  rw [List.append_assoc, List.append_assoc]
  exact h

/-- A part of a selection begins with its keyword. -/
theorem Part.sql_eq (p : Part) : ∃ body, p.sql = "SELECT ".toList ++ body := ⟨_, rfl⟩

/-- A set operator is told from a longer one by the selection that follows it. -/
theorem delimits_other : Delimits (Follows partWords) otherSql := by
  rintro ⟨op, part⟩ ⟨op', part'⟩ r s hr hs heq
  unfold otherSql at heq
  simp only [List.append_assoc, List.cons_append] at heq
  have hparts := (List.cons.inj heq).2
  obtain ⟨body, hbody⟩ := part.sql_eq
  obtain ⟨body', hbody'⟩ := part'.sql_eq
  have hop : op = op' := by
    rw [hbody, hbody', List.append_assoc, List.append_assoc] at hparts
    exact (setOperator_append_inj hparts).1
  subst hop
  obtain ⟨rfl, hrs⟩ := Part.delimits hr hs (List.cons.inj (List.append_cancel_left hparts)).2
  exact ⟨rfl, hrs⟩

/-- The first word of a set operator. -/
def operatorWord : SetOperator → String
  | .union | .unionAll => "UNION"
  | .intersect => "INTERSECT"
  | .except => "EXCEPT"

/-- The first word of a further part is that of its set operator. -/
theorem lead_setOperator (op : SetOperator) (x : List Char) :
    lead (' ' :: (op.sql.toList ++ ' ' :: x)) = (operatorWord op).toList := by
  cases op <;> rfl

/-- A further part starts with the word of its set operator. -/
theorem other_startsWith (other : SetOperator × Part) (x : List Char) :
    StartsWith (operatorWord other.1) (otherSql other ++ x) := by
  rw [otherSql, List.cons_append, List.append_assoc]
  exact ⟨rfl, lead_setOperator _ _⟩

/-- A further part may follow a part. -/
theorem other_follows (other : SetOperator × Part) (r : List Char) :
    Follows partWords (otherSql other ++ r) := by
  refine (other_startsWith other r).follows ?_
  cases other.1 <;> decide

/-- The further parts of a selection are told from their text. -/
theorem delimits_others : Delimits (Follows trailingWords)
    fun others : List (SetOperator × Part) => others.flatMap otherSql := by
  refine delimits_flatMap delimits_other (fun r hr => hr.mono (by decide))
    (fun other r _ => other_follows other r) ?_
  intro other x
  refine (other_startsWith other x).not_follows ?_
  cases other.1 <;> decide

/-- Selections with the same text are the same. -/
theorem Select.sql_inj {a b : Select} (h : a.sql = b.sql) : a = b := by
  obtain ⟨first, others, trailing⟩ := a
  obtain ⟨first', others', trailing'⟩ := b
  have hothers : ∀ (os : List (SetOperator × Part)) (t : Trailing),
      Follows partWords (os.flatMap otherSql ++ t.sql) :=
    fun os t => after_flatMap (fun o r _ => other_follows o r) os (t.follows.mono (by decide))
  obtain ⟨rfl, hrest⟩ := Part.delimits (hothers _ _) (hothers _ _) h
  obtain ⟨rfl, hlast⟩ := delimits_others trailing.follows trailing'.follows hrest
  obtain rfl := Trailing.delimits.inj (follows_nil []) hlast
  rfl

/-! ## Queries -/

/-- The filter of a change or a count is told from its text. -/
theorem delimits_filterSql : Delimits (Follows trailingWords) filterSql :=
  delimits_keyword where_startsWith (by decide) delimits_filterClause

/-- The filter and the trailing clauses of a change are told from their text. -/
theorem filterSql_append_inj {f f' : Option Filter} {t t' : Trailing}
    (h : filterSql f ++ t.sql = filterSql f' ++ t'.sql) : f = f' ∧ t = t' := by
  obtain ⟨rfl, htrailing⟩ := delimits_filterSql t.follows t'.follows h
  exact ⟨rfl, Trailing.delimits.inj (follows_nil []) htrailing⟩

/-- What follows the name of a table ends it. -/
theorem afterName_filterSql (f : Option Filter) (t : Trailing) :
    AfterName (filterSql f ++ t.sql) :=
  (follows_clauseSql where_startsWith (f.map Filter.sql) t.follows).closes.ends.afterName

/-- The first character of a statement. -/
def Query.initial : Query → Char
  | .select _ => 'S'
  | .insert .. => 'I'
  | .update .. => 'U'
  | .delete .. => 'D'
  | .count .. => 'S'

/-- A statement begins with the first letter of its kind. -/
theorem Query.head?_sql (q : Query) : q.sql.head? = some q.initial := by
  rcases q with q | ⟨table, _ | ⟨c, columns⟩⟩ | q | q | q <;> rfl

/-- A selection lists expressions where a count has an asterisk. -/
theorem Expr.sql_append_ne_count (e : Expr) {r s : List Char} :
    e.sql ++ r ≠ "COUNT".toList ++ '(' :: '*' :: s := by
  intro heq
  cases e with
  | column c => exact aggregate_append_ne_column .count heq.symm
  | aggregate function c distinct =>
    simp only [Expr.sql, List.append_assoc, List.cons_append] at heq
    obtain ⟨-, hrest⟩ := aggregate_append_inj (g := .count) heq
    cases distinct with
    | false => exact (c.opens.append _).ne_cons _ (by decide) (by decide) hrest
    | true => exact absurd (List.cons.inj hrest).1 (by decide)

/-- A selection is not taken for a count. -/
theorem select_ne_count (q : Select) (table : String) (filter : Option Filter) :
    (Query.select q).sql ≠ (Query.count table filter).sql := by
  intro heq
  obtain ⟨⟨columns, first, joins, clauses⟩, others, trailing⟩ := q
  change "SELECT ".toList ++ (separated ", " (columns.map Expr.sql) ++ (" FROM ".toList ++ _)) ++ _ =
    "SELECT ".toList ++ ("COUNT".toList ++ '(' :: '*' :: (") FROM ".toList ++ _)) at heq
  rw [List.append_assoc, List.append_assoc] at heq
  have hcolumns := List.append_cancel_left heq
  -- The first expression decides, or the space that stands in its place.
  cases columns with
  | nil => exact absurd (List.cons.inj hcolumns).1 (by decide)
  | cons e columns =>
    rw [separated_cons, List.append_assoc] at hcolumns
    exact e.sql_append_ne_count hcolumns

/-- Insertions with the same text are the same. -/
theorem Query.insert_inj {table table' : String} {columns columns' : List String}
    (h : (Query.insert table columns).sql = (Query.insert table' columns').sql) :
    Query.insert table columns = .insert table' columns' := by
  have hdefault : AfterName " DEFAULT VALUES".toList :=
    (ends_cons (c := ' ') (by decide)).afterName
  have hopen : ∀ x : List Char, AfterName (" (".toList ++ x) :=
    fun _ => (ends_cons (c := ' ') (by decide)).afterName
  have hclose : ∀ x : List Char, Closes (") VALUES (".toList ++ x) :=
    fun _ => closes_cons (c := ')') (by decide)
  cases columns with
  | nil =>
    cases columns' with
    | nil =>
      have htable : identifier table ++ " DEFAULT VALUES".toList =
          identifier table' ++ " DEFAULT VALUES".toList :=
        List.append_cancel_left (show "INSERT INTO ".toList ++ _ = "INSERT INTO ".toList ++ _ from h)
      obtain ⟨rfl, -⟩ := delimits_identifier hdefault hdefault htable
      rfl
    | cons c' columns' =>
      have htable : identifier table ++ " DEFAULT VALUES".toList =
          identifier table' ++ (" (".toList ++ _) :=
        List.append_cancel_left (show "INSERT INTO ".toList ++ _ = "INSERT INTO ".toList ++ _ from h)
      obtain ⟨-, hrest⟩ := delimits_identifier hdefault (hopen _) htable
      simp at hrest
  | cons c columns =>
    cases columns' with
    | nil =>
      have htable : identifier table ++ (" (".toList ++ _) =
          identifier table' ++ " DEFAULT VALUES".toList :=
        List.append_cancel_left (show "INSERT INTO ".toList ++ _ = "INSERT INTO ".toList ++ _ from h)
      obtain ⟨-, hrest⟩ := delimits_identifier (hopen _) hdefault htable
      simp at hrest
    | cons c' columns' =>
      have htable : identifier table ++ (" (".toList ++ (namesSql (c :: columns) ++
          (") VALUES (".toList ++ (placeholders (columns.length + 1) ++ [')'])))) =
          identifier table' ++ (" (".toList ++ (namesSql (c' :: columns') ++
            (") VALUES (".toList ++ (placeholders (columns'.length + 1) ++ [')'])))) :=
        List.append_cancel_left (show "INSERT INTO ".toList ++ _ = "INSERT INTO ".toList ++ _ from h)
      obtain ⟨rfl, hcolumns⟩ := delimits_identifier (hopen _) (hopen _) htable
      obtain ⟨hnames, -⟩ := delimits_namesSql (hclose _) (hclose _)
        (List.append_cancel_left hcolumns)
      rw [hnames]

/-- Updates with the same text are the same. -/
theorem Query.update_inj {table table' : String} {columns columns' : List String}
    {filter filter' : Option Filter} {trailing trailing' : Trailing}
    (h : (Query.update table columns filter trailing).sql =
      (Query.update table' columns' filter' trailing').sql) :
    Query.update table columns filter trailing =
      .update table' columns' filter' trailing' := by
  have hset : ∀ x : List Char, AfterName (" SET (".toList ++ x) :=
    fun _ => (ends_cons (c := ' ') (by decide)).afterName
  have hclose : ∀ x : List Char, Closes (") = (".toList ++ x) :=
    fun _ => closes_cons (c := ')') (by decide)
  have htable : Sql.identifier table ++ (" SET (".toList ++ (namesSql columns ++
      (") = (".toList ++ (placeholders columns.length ++
        ')' :: (filterSql filter ++ trailing.sql))))) =
      Sql.identifier table' ++ (" SET (".toList ++ (namesSql columns' ++
        (") = (".toList ++ (placeholders columns'.length ++
          ')' :: (filterSql filter' ++ trailing'.sql))))) :=
    List.append_cancel_left (show "UPDATE ".toList ++ _ = "UPDATE ".toList ++ _ from h)
  obtain ⟨rfl, hcolumns⟩ := delimits_identifier (hset _) (hset _) htable
  obtain ⟨rfl, hvalues⟩ := delimits_namesSql (hclose _) (hclose _)
    (List.append_cancel_left hcolumns)
  have hclauses := List.append_cancel_left (List.append_cancel_left hvalues)
  obtain ⟨rfl, rfl⟩ := filterSql_append_inj (List.cons.inj hclauses).2
  rfl

/-- Deletions with the same text are the same. -/
theorem Query.delete_inj {table table' : String} {filter filter' : Option Filter}
    {trailing trailing' : Trailing}
    (h : (Query.delete table filter trailing).sql =
      (Query.delete table' filter' trailing').sql) :
    Query.delete table filter trailing = .delete table' filter' trailing' := by
  have htable : Sql.identifier table ++ (filterSql filter ++ trailing.sql) =
      Sql.identifier table' ++ (filterSql filter' ++ trailing'.sql) :=
    List.append_cancel_left (show "DELETE FROM ".toList ++ _ = "DELETE FROM ".toList ++ _ from h)
  obtain ⟨rfl, hclauses⟩ := delimits_identifier (afterName_filterSql _ _)
    (afterName_filterSql _ _) htable
  obtain ⟨rfl, rfl⟩ := filterSql_append_inj hclauses
  rfl

/-- Counts with the same text are the same. -/
theorem Query.count_inj {table table' : String} {filter filter' : Option Filter}
    (h : (Query.count table filter).sql = (Query.count table' filter').sql) :
    Query.count table filter = .count table' filter' := by
  have hafter : ∀ f : Option Filter, AfterName (filterSql f) := by
    intro f
    have hname := afterName_filterSql f ⟨none, none⟩
    rwa [show filterSql f ++ (Trailing.mk none none).sql = filterSql f from
      List.append_nil _] at hname
  have htable : Sql.identifier table ++ filterSql filter =
      Sql.identifier table' ++ filterSql filter' :=
    List.append_cancel_left
      (show "SELECT COUNT(*) FROM ".toList ++ _ = "SELECT COUNT(*) FROM ".toList ++ _ from h)
  obtain ⟨rfl, hfilter⟩ := delimits_identifier (hafter filter) (hafter filter') htable
  obtain rfl := delimits_filterSql.inj (follows_nil _) hfilter
  rfl

/-- Equal texts are of the same skeleton. -/
theorem Query.sql_inj {a b : Query} (h : a.sql = b.sql) : a = b := by
  have hinitial : a.initial = b.initial := by
    have hhead := congrArg List.head? h
    rwa [a.head?_sql, b.head?_sql, Option.some.injEq] at hhead
  cases a with
  | select q =>
    cases b with
    | select q' => exact congrArg Query.select (Select.sql_inj h)
    | count table filter => exact absurd h (select_ne_count q table filter)
    | insert table columns => simp [initial] at hinitial
    | update table columns filter trailing => simp [initial] at hinitial
    | delete table filter trailing => simp [initial] at hinitial
  | insert table columns =>
    cases b with
    | insert table' columns' => exact insert_inj h
    | select q => simp [initial] at hinitial
    | update table' columns' filter trailing => simp [initial] at hinitial
    | delete table' filter trailing => simp [initial] at hinitial
    | count table' filter => simp [initial] at hinitial
  | update table columns filter trailing =>
    cases b with
    | update table' columns' filter' trailing' => exact update_inj h
    | select q => simp [initial] at hinitial
    | insert table' columns' => simp [initial] at hinitial
    | delete table' filter' trailing' => simp [initial] at hinitial
    | count table' filter' => simp [initial] at hinitial
  | delete table filter trailing =>
    cases b with
    | delete table' filter' trailing' => exact delete_inj h
    | select q => simp [initial] at hinitial
    | insert table' columns => simp [initial] at hinitial
    | update table' columns filter' trailing' => simp [initial] at hinitial
    | count table' filter' => simp [initial] at hinitial
  | count table filter =>
    cases b with
    | count table' filter' => exact count_inj h
    | select q => exact absurd h.symm (select_ne_count q table filter)
    | insert table' columns => simp [initial] at hinitial
    | update table' columns filter' trailing => simp [initial] at hinitial
    | delete table' filter' trailing => simp [initial] at hinitial

end TypedQuery.Skeleton

namespace TypedQuery

/-- The text of a built query determines its skeleton and nothing more: two built queries, of the
same kind or not, are written alike exactly if they have the same names, operators, placeholder
numbers and trees, whatever characters their names are made of. -/
theorem Query.sql_eq_sql_iff {q r : Query} (hq : q.Built) (hr : r.Built) :
    q.sql = r.sql ↔ q.skeleton = r.skeleton := by
  rw [← sql_skeleton hq.nestedPlain, ← sql_skeleton hr.nestedPlain]
  exact ⟨Skeleton.Query.sql_inj, congrArg Skeleton.Query.sql⟩

/-- The side of a literal NULL does not show, but a name that holds a quote and a keyword does. -/
theorem Query.sql_eq_sql_iff_of_quotes_in_names :
    let t : Table := ⟨⟨0⟩, "t\" WHERE \"u", [⟨"c", .integer⟩]⟩
    let u : Table := ⟨⟨1⟩, "t", [⟨"c", .integer⟩]⟩
    let isNull := fun (t : Table) (valueFirst : Bool) =>
      Filter.compare .eq (.column ⟨t.id, t.name, 0, "c", .integer⟩) .null valueFirst
    let q := fun (t : Table) (valueFirst : Bool) =>
      Query.delete ⟨t, some (isNull t valueFirst), none, none⟩
    (q t false).sql = (q t true).sql ∧ (q t false).sql ≠ (q u false).sql := by
  intro t u isNull q
  have ht : ∀ valueFirst, (q t valueFirst).Built := fun valueFirst =>
    .call (c := .filter (isNull t valueFirst)) (.delete t) nofun rfl
  have hu : (q u false).Built := .call (c := .filter (isNull u false)) (.delete u) nofun rfl
  refine ⟨(sql_eq_sql_iff (ht false) (ht true)).mpr rfl, ?_⟩
  exact fun h => absurd ((sql_eq_sql_iff (ht false) hu).mp h) (by decide)

end TypedQuery
