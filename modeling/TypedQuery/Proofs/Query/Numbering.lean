import Mathlib.Data.List.Nodup
import TypedQuery.Proofs.Sql.Placeholder
import TypedQuery.Proofs.Statement.Prepared

/-!
# Numbering

The parameters of a query are numbered before it is written. The numbers follow the text: read from
left to right, the placeholders of a numbered query are 1, 2, 3 and so on, the new values of an
insertion or an update first and the parameters of the filters after them. Every filter that takes a
value shows the number of its own parameter, and binding all parameters of the compiled statement
meets the numbers in increasing order.

The lemmas go up from filters through relations and selections to queries of any kind. At each
level one says what the text shows, one what numbers the parameters carry, and one where the
conditions that take a value stand in the text.
-/

set_option autoImplicit false

namespace TypedQuery

open Sql Text

/-! ## Conditions that take a value -/

namespace Filter

/-- The conditions of a filter that take a value, from left to right. -/
def bindable : Filter → List Filter
  | .compare op expr (.param p) valueFirst => [.compare op expr (.param p) valueFirst]
  | .compare _ _ .null _ => []
  | .columns .. => []
  | .like column pattern => [.like column pattern]
  | .logical _ left right => left.bindable ++ right.bindable

/-- Each of these conditions has one parameter, and together they have those of the filter. -/
theorem map_params_bindable (f : Filter) :
    f.bindable.map Filter.params = f.params.map fun p => [p] := by
  fun_induction bindable f <;> simp_all [params]

end Filter

/-! ## Expressions and filters -/

/-- A column shows no placeholder, whatever its names are. -/
theorem Column.shows_sql (c : Column) : Shows c.sql [] := by
  have hname := shows_identifier c.name
  have hdot : Shows ('.' :: identifier c.name) [] := hname.cons (by decide)
  exact (shows_identifier c.tableName).append hdot (noDigitFirst_cons (by decide))

/-- A column or an aggregate shows no placeholder. -/
theorem Expr.shows_sql (e : Expr) : Shows e.sql [] := by
  cases e with
  | column c => exact c.shows_sql
  | aggregate function c distinct =>
    have hclose : Shows (c.sql ++ [')']) [] :=
      c.shows_sql.append (shows_word (by decide)) (noDigitFirst_cons (by decide))
    have hdistinct : Shows ((if distinct then "DISTINCT ".toList else []) ++ (c.sql ++ [')'])) [] :=
      hclose.word_append (by cases distinct <;> decide)
    have hopen := hdistinct.cons (c := '(') (by decide)
    rw [Expr.sql, List.append_assoc, List.append_assoc, List.cons_append]
    exact hopen.word_append (by cases function <;> decide)

/-- A parameter shows its own placeholder. -/
theorem Param.shows_sql (p : Param) : Shows p.sql [p.index] := shows_placeholder p.index

/-- A comparison against another text shows the numbers of both sides. -/
theorem shows_comparison (op : Comparison) {left right : List Char} {ns ms : List Nat}
    (hleft : Shows left ns) (hright : Shows right ms) :
    Shows (left ++ ' ' :: op.sql.toList ++ ' ' :: right) (ns ++ ms) := by
  have hop : Shows (' ' :: (op.sql.toList ++ ' ' :: right)) ms :=
    ((hright.cons (by decide)).word_append (by cases op <;> decide)).cons (by decide)
  rw [List.append_assoc, List.cons_append]
  exact hleft.append hop (noDigitFirst_cons (by decide))

namespace Filter

/-- A condition that takes a value shows the number of its own parameter. -/
theorem shows_sql_of_mem_bindable {f leaf : Filter} (hleaf : leaf ∈ f.bindable) :
    Shows leaf.sql (leaf.params.map Param.index) := by
  fun_induction bindable f with
  | case1 op expr p valueFirst =>
    rw [List.mem_singleton.mp hleaf]
    cases valueFirst with
    | true => exact shows_comparison op p.shows_sql expr.shows_sql
    | false => exact shows_comparison op expr.shows_sql p.shows_sql
  | case2 => simp at hleaf
  | case3 => simp at hleaf
  | case4 column pattern =>
    rw [List.mem_singleton.mp hleaf, Filter.sql, List.append_assoc]
    exact column.shows_sql.append (pattern.shows_sql.word_append (by decide))
      (noDigitFirst_cons (by decide))
  | case5 op left right ihleft ihright =>
    rcases List.mem_append.mp hleaf with h | h
    · exact ihleft h
    · exact ihright h

/-- A condition that takes a value stands in the text of the filter. -/
theorem sql_isInfix_of_mem_bindable {f leaf : Filter} (hleaf : leaf ∈ f.bindable) :
    leaf.sql <:+: f.sql := by
  fun_induction bindable f with
  | case1 => exact List.mem_singleton.mp hleaf ▸ List.infix_rfl
  | case2 => simp at hleaf
  | case3 => simp at hleaf
  | case4 => exact List.mem_singleton.mp hleaf ▸ List.infix_rfl
  | case5 op left right ihleft ihright =>
    rcases List.mem_append.mp hleaf with h | h
    · refine (ihleft h).trans ⟨['('], ' ' :: (op.sql.toList ++ ' ' :: (right.sql ++ [')'])), ?_⟩
      simp [Filter.sql]
    · refine (ihright h).trans ⟨'(' :: (left.sql ++ ' ' :: (op.sql.toList ++ [' '])), [')'], ?_⟩
      simp [Filter.sql]

/-- A filter that is numbered from `first` on shows its numbers in order. -/
theorem shows_sql_number (f : Filter) (first : Nat) :
    Shows (f.number first).sql (List.range' first f.paramCount) := by
  induction f generalizing first with
  | compare op expr value valueFirst =>
    cases value with
    | param p =>
      cases valueFirst with
      | true =>
        exact shows_comparison op (Param.shows_sql { p with index := first }) expr.shows_sql
      | false =>
        exact shows_comparison op expr.shows_sql (Param.shows_sql { p with index := first })
    | null =>
      rw [number, Filter.sql]
      split
      · next form hform =>
        have hplain : form.toList.all isPlain = true := by
          cases op <;> cases hform <;> decide
        exact expr.shows_sql.append ((shows_word hplain).cons (by decide))
          (noDigitFirst_cons (by decide))
      · cases valueFirst with
        | true =>
          exact shows_comparison op (shows_word (w := "NULL".toList) (by decide)) expr.shows_sql
        | false =>
          exact shows_comparison op expr.shows_sql (shows_word (w := "NULL".toList) (by decide))
  | columns op left right => exact shows_comparison op left.shows_sql right.shows_sql
  | like column pattern =>
    rw [number, Filter.sql, List.append_assoc]
    exact column.shows_sql.append
      ((Param.shows_sql { pattern with index := first }).word_append (by decide))
      (noDigitFirst_cons (by decide))
  | logical op left right ihleft ihright =>
    -- From right to left: a piece has to know what the next one begins with.
    have hright : Shows (' ' :: ((right.number (first + left.paramCount)).sql ++ [')']))
        (List.range' (first + left.paramCount) right.paramCount ++ []) :=
      ((ihright _).append (shows_word (by decide)) (noDigitFirst_cons (by decide))).cons (by decide)
    have hop := (hright.word_append (w := op.sql.toList) (by cases op <;> decide)).cons
      (c := ' ') (by decide)
    have hboth := ((ihleft first).append hop (noDigitFirst_cons (by decide))).cons
      (c := '(') (by decide)
    rw [List.append_nil, List.range'_append_1] at hboth
    simpa only [number, Filter.sql, paramCount, List.append_assoc, List.cons_append] using hboth

/-- Numbering changes no count. -/
@[simp]
theorem paramCount_number (f : Filter) (first : Nat) : (f.number first).paramCount = f.paramCount := by
  fun_induction number first f <;> simp_all [paramCount]

/-- The parameters of a filter that is numbered from `first` on carry its numbers in order. -/
theorem map_index_params_number (f : Filter) (first : Nat) :
    (f.number first).params.map Param.index = List.range' first f.paramCount := by
  fun_induction number first f <;>
    simp_all [params, paramCount, List.range'_append_1]

end Filter

/-! ## Lists of filters -/

/-- The filters of a list, numbered one after the other from `first` on. -/
def numberAll (first : Nat) : List Filter → List Filter
  | [] => []
  | f :: filters => f.number first :: numberAll (first + f.paramCount) filters

/-- No filters have no parameters. -/
@[simp]
theorem paramCount_nil : paramCount [] = 0 := rfl

/-- The parameters of the first filter and those of the others. -/
@[simp]
theorem paramCount_cons (f : Filter) (filters : List Filter) :
    paramCount (f :: filters) = f.paramCount + paramCount filters := by
  simp [paramCount, Filter.length_params]

/-- The parameters of two lists of filters. -/
@[simp]
theorem paramCount_append (fs gs : List Filter) :
    paramCount (fs ++ gs) = paramCount fs + paramCount gs := by
  simp [paramCount]

/-- Numbering goes on behind the first filters where it stopped. -/
theorem numberAll_append (first : Nat) (fs gs : List Filter) :
    numberAll first (fs ++ gs) = numberAll first fs ++ numberAll (first + paramCount fs) gs := by
  induction fs generalizing first with
  | nil => simp [numberAll]
  | cons f fs ih => simp [numberAll, ih, Nat.add_assoc]

/-- The parameters of filters that are numbered one after the other carry the numbers in order. -/
theorem map_index_params_numberAll (first : Nat) (filters : List Filter) :
    ((numberAll first filters).flatMap Filter.params).map Param.index =
      List.range' first (paramCount filters) := by
  induction filters generalizing first with
  | nil => simp [numberAll]
  | cons f filters ih =>
    simp [numberAll, ih, Filter.map_index_params_number, List.range'_append_1]

/-- A clause is numbered like the list of its filter. -/
theorem toList_numberClause (first : Nat) (clause : Option Filter) :
    (numberClause first clause).toList = numberAll first clause.toList := by
  cases clause <;> rfl

/-! ## Clauses -/

/-- A clause shows what its text shows, and nothing if it is not given. -/
theorem shows_clauseSql {keyword : String} {text : Option (List Char)} {ns : List Nat}
    (hkeyword : keyword.toList.all isPlain = true) (hsome : ∀ t ∈ text, Shows t ns)
    (hnone : text = none → ns = []) : Shows (clauseSql keyword text) ns := by
  cases text with
  | none =>
    rw [hnone rfl]
    exact shows_nil
  | some t => exact (hsome t rfl).word_append hkeyword

/-- A clause does not begin with a digit if its keyword does not. -/
theorem noDigitFirst_clauseSql {keyword : String} {c : Char} {rest : List Char}
    (hkeyword : keyword.toList = c :: rest) (hc : isDigit c = false) (text : Option (List Char)) :
    NoDigitFirst (clauseSql keyword text) := by
  cases text with
  | none => exact noDigitFirst_nil
  | some t =>
    rw [clauseSql, hkeyword]
    exact noDigitFirst_cons hc

/-- A filter clause that is numbered from `first` on shows its numbers in order. -/
theorem shows_clauseSql_numberClause {k : String}
    (hk : k.toList.all isPlain = true) (first : Nat) (clause : Option Filter) :
    Shows (clauseSql k ((numberClause first clause).map Filter.sql))
      (List.range' first (paramCount clause.toList)) := by
  cases clause with
  | none => exact shows_nil
  | some f =>
    refine shows_clauseSql hk ?_ (by simp [numberClause])
    intro t ht
    simp only [numberClause, Option.map_some, Option.mem_def, Option.some.injEq] at ht
    subst ht
    simpa using f.shows_sql_number first

/-- A filter stands in the text of its clause. -/
theorem sql_isInfix_clauseSql {keyword : String} {clause : Option Filter} {f : Filter}
    (hf : f ∈ clause.toList) : f.sql <:+: clauseSql keyword (clause.map Filter.sql) := by
  cases clause with
  | none => simp at hf
  | some g =>
    have heq : f = g := by simpa using hf
    rw [heq]
    exact List.infix_append_right

/-- A term of an ordering shows no placeholder. -/
theorem OrderTerm.shows_sql (term : OrderTerm) : Shows term.sql [] := by
  obtain ⟨expr, direction, nulls⟩ := term
  have hdirection : Shows (' ' :: direction.sql.toList) [] :=
    shows_word (by cases direction <;> decide)
  have hhead := expr.shows_sql.append hdirection (noDigitFirst_cons (by decide))
  cases nulls with
  | none => exact hhead.append shows_nil noDigitFirst_nil
  | some nulls =>
    have hnulls : Shows (' ' :: nulls.sql.toList) [] := shows_word (by cases nulls <;> decide)
    exact hhead.append hnulls (noDigitFirst_cons (by decide))

/-- An ordering shows no placeholder. -/
theorem OrderBy.shows_sql (o : OrderBy) : Shows o.sql [] :=
  shows_separated_nil OrderTerm.sql o.terms fun term _ => term.shows_sql

/-- Digits stand for themselves. -/
theorem all_isPlain_toDigits (n : Nat) : (Nat.toDigits 10 n).all isPlain = true := by
  rw [List.all_eq_true]
  intro c hc
  have hdigit := isDigit_of_mem_toDigits hc
  simp only [isPlain, Bool.and_eq_true, bne_iff_ne]
  constructor
  · rintro rfl
    exact absurd hdigit (by decide)
  · rintro rfl
    exact absurd hdigit (by decide)

/-- A limit shows no placeholder. -/
theorem Limit.shows_sql (l : Limit) : Shows l.sql [] := by
  have hoffset : Shows (" OFFSET ".toList ++ Nat.toDigits 10 l.offset) [] :=
    (shows_word (all_isPlain_toDigits l.offset)).word_append (by decide)
  have hcount := hoffset.word_append (all_isPlain_toDigits l.count)
  unfold Limit.sql
  rw [List.append_assoc, List.append_assoc]
  exact hcount.word_append (by decide)

/-- The ordering and the limit show nothing. -/
theorem shows_trailingSql (orderBy : Option OrderBy) (limit : Option Limit) :
    Shows (trailingSql orderBy limit) [] := by
  have horder : Shows (clauseSql " ORDER BY " (orderBy.map OrderBy.sql)) [] := by
    refine shows_clauseSql (by decide) ?_ fun _ => rfl
    cases orderBy with
    | none => simp
    | some o => simpa using o.shows_sql
  have hlimit : Shows (clauseSql " " (limit.map Limit.sql)) [] := by
    refine shows_clauseSql (by decide) ?_ fun _ => rfl
    cases limit with
    | none => simp
    | some l => simpa using l.shows_sql
  exact horder.append hlimit (noDigitFirst_clauseSql (c := ' ') rfl (by decide) _)

/-- The ordering and the limit do not begin with a digit. -/
theorem noDigitFirst_trailingSql (orderBy : Option OrderBy) (limit : Option Limit) :
    NoDigitFirst (trailingSql orderBy limit) :=
  (noDigitFirst_clauseSql (c := ' ') rfl (by decide) _).append
    (noDigitFirst_clauseSql (c := ' ') rfl (by decide) _)

/-! ## Relations -/

/-- A list of names shows no placeholder. -/
theorem shows_bareNames (columns : List Column) : Shows (bareNames columns) [] :=
  shows_separated_nil Column.bareSql columns fun c _ => shows_identifier c.name

/-- The text of a constraint begins with a space. -/
theorem JoinConstraint.noDigitFirst_sql (k : JoinConstraint) : NoDigitFirst k.sql := by
  cases k <;> exact noDigitFirst_cons (by decide)

/-- The constraint of a join shows the numbers of its filter. -/
theorem JoinConstraint.shows_sql_number (k : JoinConstraint) (first : Nat) :
    Shows (k.number first).sql (List.range' first (paramCount k.filter?.toList)) := by
  cases k with
  | condition filter =>
    have hcount : paramCount (condition filter).filter?.toList = filter.paramCount := by
      simp [filter?]
    rw [hcount]
    exact (filter.shows_sql_number first).word_append (by decide)
  | shared columns =>
    have hclose : Shows (bareNames columns ++ [')']) [] :=
      (shows_bareNames columns).append (shows_word (by decide)) (noDigitFirst_cons (by decide))
    have husing := hclose.word_append (w := " USING (".toList) (by decide)
    rw [← List.append_assoc] at husing
    exact husing

namespace Relation

/-- The filters of a numbered relation are its filters, numbered one after the other. -/
theorem filters_number (r : Relation) (first : Nat) :
    (r.number first).filters = numberAll first r.filters := by
  induction r with
  | table t => rfl
  | join left kind right constraint ih =>
    have hconstraint : ((constraint.map (JoinConstraint.number (first + paramCount left.filters))).bind
        JoinConstraint.filter?).toList = numberAll (first + paramCount left.filters)
          (constraint.bind JoinConstraint.filter?).toList := by
      rcases constraint with _ | ⟨filter | columns⟩ <;> rfl
    rw [number, filters, filters, ih, hconstraint, numberAll_append]

/-- The text of a relation begins with the name of its first table. -/
theorem noDigitFirst_sql (r : Relation) : NoDigitFirst r.sql := by
  induction r with
  | table t => exact identifier_head_not_digit t.name
  | join left kind right constraint ih =>
    have hright : NoDigitFirst (' ' :: kind.sql.toList ++ ' ' :: identifier right.name) :=
      noDigitFirst_cons (by decide)
    rw [Relation.sql, List.append_assoc left.sql]
    refine (ih.append hright).append ?_
    cases constraint with
    | none => exact noDigitFirst_nil
    | some k => exact k.noDigitFirst_sql

/-- A relation that is numbered from `first` on shows its numbers in order. -/
theorem shows_sql_number (r : Relation) (first : Nat) :
    Shows (r.number first).sql (List.range' first (paramCount r.filters)) := by
  induction r with
  | table t => exact shows_identifier t.name
  | join left kind right constraint ih =>
    have hright : Shows (' ' :: (kind.sql.toList ++ ' ' :: identifier right.name)) [] :=
      (((shows_identifier right.name).cons (by decide)).word_append
        (by cases kind <;> decide)).cons (by decide)
    have hchain := ih.append hright (noDigitFirst_cons (by decide))
    cases constraint with
    | none => simpa [number, Relation.sql, filters, clauseSql] using hchain
    | some k =>
      have hconstraint := k.shows_sql_number (first + paramCount left.filters)
      have hall := hchain.append hconstraint (k.number _).noDigitFirst_sql
      rw [List.append_nil, List.range'_append_1] at hall
      simpa [number, Relation.sql, filters, clauseSql] using hall

/-- The conditions of the joins stand in the text of the relation. -/
theorem sql_isInfix_of_mem_filters {r : Relation} {f : Filter} (hf : f ∈ r.filters) :
    f.sql <:+: r.sql := by
  induction r with
  | table t => simp [filters] at hf
  | join left kind right constraint ih =>
    rw [filters, List.mem_append] at hf
    rw [Relation.sql]
    rcases hf with h | h
    · exact List.infix_append_of_infix_left (List.infix_append_of_infix_left
        (List.infix_append_of_infix_left (ih h)))
    · rcases constraint with _ | ⟨filter | columns⟩
      · simp at h
      · have heq : f = filter := by simpa [JoinConstraint.filter?] using h
        rw [heq]
        refine List.infix_append_of_infix_right ?_
        exact ⟨" ON ".toList, [], List.append_nil _⟩
      · simp [JoinConstraint.filter?] at h

end Relation

/-! ## Selections -/

namespace SelectPart

/-- The filters of a numbered part are the numbered filters. -/
theorem filters_number (p : SelectPart) (first : Nat) :
    (p.number first).filters = numberAll first p.filters := by
  simp only [filters, number, Relation.filters_number, toList_numberClause, numberAll_append,
    paramCount_append, Nat.add_assoc]

/-- The clauses in front of a set operator show their numbers in order. -/
theorem shows_headSql_number (p : SelectPart) (first : Nat) :
    Shows (p.number first).headSql (List.range' first (paramCount p.filters)) := by
  have hcolumns : Shows ("SELECT ".toList ++ separated ", " (p.columns.map fun c => c.expr.sql)) [] :=
    (shows_separated_nil _ p.columns fun c _ => c.expr.shows_sql).word_append (by decide)
  have hfrom := hcolumns.append (shows_word (w := " FROM ".toList) (by decide))
    (noDigitFirst_cons (by decide))
  have hrelation := hfrom.append (p.relation.shows_sql_number first)
    (p.relation.number first).noDigitFirst_sql
  have hwhere := hrelation.append
    (shows_clauseSql_numberClause (k := " WHERE ") (by decide)
      (first + paramCount p.relation.filters) p.filter)
    (noDigitFirst_clauseSql (c := ' ') rfl (by decide) _)
  have hgroups : Shows (clauseSql " GROUP BY "
      (p.groupBy.map fun cs => separated ", " (cs.map Column.sql))) [] := by
    refine shows_clauseSql (by decide) ?_ fun _ => rfl
    cases p.groupBy with
    | none => simp
    | some cs => simpa using shows_separated_nil Column.sql cs fun c _ => c.shows_sql
  have hgroup := hwhere.append hgroups (noDigitFirst_clauseSql (c := ' ') rfl (by decide) _)
  have hhaving := hgroup.append
    (shows_clauseSql_numberClause (k := " HAVING ") (by decide)
      (first + paramCount p.relation.filters + paramCount p.filter.toList) p.having)
    (noDigitFirst_clauseSql (c := ' ') rfl (by decide) _)
  rw [List.nil_append, List.nil_append, List.range'_append_1, List.append_nil] at hhaving
  rw [filters, paramCount_append, paramCount_append, ← List.range'_append_1, ← Nat.add_assoc]
  exact hhaving

/-- A filter of a selection stands in the text in front of its set operator. -/
theorem sql_isInfix_of_mem_filters {p : SelectPart} {f : Filter} (hf : f ∈ p.filters) :
    f.sql <:+: p.headSql := by
  unfold headSql
  simp only [filters, List.mem_append] at hf
  rcases hf with (h | h) | h
  · refine List.infix_append_of_infix_left (List.infix_append_of_infix_left
      (List.infix_append_of_infix_left (List.infix_append_of_infix_right ?_)))
    exact Relation.sql_isInfix_of_mem_filters h
  · refine List.infix_append_of_infix_left (List.infix_append_of_infix_left
      (List.infix_append_of_infix_right ?_))
    exact sql_isInfix_clauseSql h
  · exact List.infix_append_of_infix_right (sql_isInfix_clauseSql h)

end SelectPart

namespace Select

/-- The filters of a numbered selection are the numbered filters. -/
theorem filters_number (q : Select) (first : Nat) :
    (q.number first).filters = numberAll first q.filters := by
  induction q generalizing first with
  | simple part => exact part.filters_number first
  | compound part op other ih =>
    rw [number, filters, filters, part.filters_number, ih, numberAll_append]

/-- A selection that is numbered from `first` on shows its numbers in order, those of the selection
after a set operator behind its own. -/
theorem shows_sql_number (q : Select) (first : Nat) :
    Shows (q.number first).sql (List.range' first (paramCount q.filters)) := by
  induction q generalizing first with
  | simple part =>
    have hsimple := (part.shows_headSql_number first).append
      (shows_trailingSql part.orderBy part.limit) (noDigitFirst_trailingSql _ _)
    rw [List.append_nil] at hsimple
    exact hsimple
  | compound part op other ih =>
    have hop : Shows (' ' :: op.sql.toList) [] := shows_word (by cases op <;> decide)
    have hhead := (part.shows_headSql_number first).append hop (noDigitFirst_cons (by decide))
    have hother := hhead.append ((ih (first + paramCount part.filters)).cons (c := ' ') (by decide))
      (noDigitFirst_cons (by decide))
    have hall := hother.append (shows_trailingSql part.orderBy part.limit)
      (noDigitFirst_trailingSql _ _)
    rw [List.append_nil, List.append_nil, List.range'_append_1] at hall
    rw [filters, paramCount_append]
    exact hall

/-- Every filter is part of the text of its selection. -/
theorem sql_isInfix_of_mem_filters {q : Select} {f : Filter} (hf : f ∈ q.filters) :
    f.sql <:+: q.sql := by
  induction q with
  | simple part =>
    exact List.infix_append_of_infix_left (SelectPart.sql_isInfix_of_mem_filters hf)
  | compound part op other ih =>
    rw [filters, List.mem_append] at hf
    rw [Select.sql]
    rcases hf with h | h
    · exact List.infix_append_of_infix_left (List.infix_append_of_infix_left
        (List.infix_append_of_infix_left (SelectPart.sql_isInfix_of_mem_filters h)))
    · exact List.infix_append_of_infix_left (List.infix_append_of_infix_right
        (List.infix_cons (ih h)))

end Select

/-! ## Queries over a single table -/

/-- The new values show the numbers from 1 on. -/
theorem shows_placeholders (count : Nat) : Shows (placeholders count) (List.range' 1 count) := by
  have hitems := shows_separated (fun index => '?' :: Nat.toDigits 10 index) (fun index => [index])
    (List.range' 1 count) fun index _ => shows_placeholder index
  simpa [placeholders] using hitems

/-- The filter of a change is numbered from `first` on and shows its numbers in order. -/
theorem shows_filter_trailingSql (first : Nat) (clause : Option Filter) (orderBy : Option OrderBy)
    (limit : Option Limit) :
    Shows (clauseSql " WHERE " ((numberClause first clause).map Filter.sql) ++
      trailingSql orderBy limit) (List.range' first (paramCount clause.toList)) := by
  have hclause := (shows_clauseSql_numberClause (k := " WHERE ") (by decide) first clause).append
    (shows_trailingSql orderBy limit) (noDigitFirst_trailingSql _ _)
  rw [List.append_nil] at hclause
  exact hclause

/-- An insertion shows one placeholder for each of its columns. -/
theorem Insert.shows_sql (q : Insert) : Shows q.sql (List.range' 1 q.columns.length) := by
  have htable := (shows_identifier q.table.name).word_append (w := "INSERT INTO ".toList)
    (by decide)
  rw [Insert.sql]
  split
  · next hempty =>
    have hnone : q.columns = [] := List.isEmpty_iff.mp hempty
    rw [hnone]
    exact htable.append (shows_word (by decide)) (noDigitFirst_cons (by decide))
  · have hvalues : Shows (") VALUES (".toList ++ (placeholders q.columns.length ++ [')']))
        (List.range' 1 q.columns.length ++ []) :=
      ((shows_placeholders q.columns.length).append (shows_word (by decide))
        (noDigitFirst_cons (by decide))).word_append (by decide)
    have hnames : Shows (" (".toList ++ (bareNames q.columns ++ (") VALUES (".toList ++
        (placeholders q.columns.length ++ [')'])))) ([] ++ (List.range' 1 q.columns.length ++ [])) :=
      ((shows_bareNames q.columns).append hvalues (noDigitFirst_cons (by decide))).word_append
        (by decide)
    have hall := htable.append hnames (noDigitFirst_cons (by decide))
    simpa only [List.append_assoc, List.nil_append, List.append_nil] using hall

/-- An update shows the placeholders of its columns and then those of its filter. -/
theorem Update.shows_sql_numbered (q : Update) :
    Shows q.numbered.sql (List.range' 1 (q.columns.length + paramCount q.filter.toList)) := by
  have hclauses := shows_filter_trailingSql (1 + q.columns.length) q.filter q.orderBy q.limit
  have hvalues : Shows (") = (".toList ++ (placeholders q.columns.length ++
      ')' :: (clauseSql " WHERE " (q.numbered.filter.map Filter.sql) ++
        trailingSql q.orderBy q.limit)))
      (List.range' 1 (q.columns.length + paramCount q.filter.toList)) := by
    rw [← List.range'_append_1]
    exact ((shows_placeholders q.columns.length).append (hclauses.cons (by decide))
      (noDigitFirst_cons (by decide))).word_append (by decide)
  have hnames := ((shows_bareNames q.columns).append hvalues
    (noDigitFirst_cons (by decide))).word_append (w := " SET (".toList) (by decide)
  have htable := ((shows_identifier q.table.name).append hnames
    (noDigitFirst_cons (by decide))).word_append (w := "UPDATE ".toList) (by decide)
  unfold Update.sql
  simp only [List.append_assoc]
  exact htable

/-- A deletion shows the placeholders of its filter. -/
theorem Delete.shows_sql_numbered (q : Delete) :
    Shows q.numbered.sql (List.range' 1 (paramCount q.filter.toList)) := by
  have hclauses := shows_filter_trailingSql 1 q.filter q.orderBy q.limit
  have htable := ((shows_identifier q.table.name).append hclauses
    ((noDigitFirst_clauseSql (c := ' ') rfl (by decide) _).append
      (noDigitFirst_trailingSql _ _))).word_append (w := "DELETE FROM ".toList) (by decide)
  unfold Delete.sql
  simp only [List.append_assoc]
  exact htable

/-- A count shows the placeholders of its filter. -/
theorem Count.shows_sql_numbered (q : Count) :
    Shows q.numbered.sql (List.range' 1 (paramCount q.filter.toList)) := by
  have hclause := shows_clauseSql_numberClause (k := " WHERE ") (by decide) 1 q.filter
  have htable := ((shows_identifier q.table.name).append hclause
    (noDigitFirst_clauseSql (c := ' ') rfl (by decide) _)).word_append
    (w := "SELECT COUNT(*) FROM ".toList) (by decide)
  unfold Count.sql
  simp only [List.append_assoc]
  exact htable

/-! ## Queries of any kind -/

namespace Query

/-- The conditions of a query that take a value, in the order in which their placeholders are
written. -/
def bindable (q : Query) : List Filter := q.filters.flatMap Filter.bindable

/-- The parameters of a query, one by one, are those of its conditions that take a value. -/
theorem map_params_bindable (q : Query) : q.bindable.map Filter.params = q.params.map fun p => [p] := by
  rw [bindable, params_eq_flatMap_filters, List.map_flatMap, List.map_flatMap]
  exact congrArg (q.filters.flatMap ·) (funext Filter.map_params_bindable)

/-- As many conditions take a value as there are parameters. -/
theorem length_bindable (q : Query) : q.bindable.length = paramCount q.filters := by
  have hlength := congrArg List.length q.map_params_bindable
  rwa [List.length_map, List.length_map, params_eq_flatMap_filters] at hlength

/-- The filters of a numbered query are its filters, numbered behind the new values. -/
theorem filters_numbered (q : Query) :
    q.numbered.filters = numberAll (1 + q.valueCount) q.filters := by
  cases q with
  | select q => exact q.filters_number 1
  | insert q => rfl
  | update q => exact toList_numberClause _ _
  | delete q => exact toList_numberClause _ _
  | count q => exact toList_numberClause _ _

/-- The parameters of a numbered query carry the numbers behind those of the new values. -/
theorem map_index_params_numbered (q : Query) :
    q.numbered.params.map Param.index = List.range' (q.valueCount + 1) q.bindable.length := by
  rw [params_eq_flatMap_filters, filters_numbered, map_index_params_numberAll, length_bindable,
    Nat.add_comm]

/-- The numbers of the parameters lie behind those of the new values. -/
theorem valueCount_lt_index {q : Query} {p : Param} (hp : p ∈ q.numbered.params) :
    q.valueCount < p.index := by
  have hindex : p.index ∈ q.numbered.params.map Param.index := List.mem_map_of_mem hp
  rw [map_index_params_numbered, List.mem_range'_1] at hindex
  omega

/-- No two parameters of a numbered query carry the same number. -/
theorem eq_of_index_eq {q : Query} {p p' : Param} (hp : p ∈ q.numbered.params)
    (hp' : p' ∈ q.numbered.params) (h : p.index = p'.index) : p = p' := by
  have hnodup : (q.numbered.params.map Param.index).Nodup := by
    rw [map_index_params_numbered]
    exact List.nodup_range'
  exact List.inj_on_of_nodup_map hnodup hp hp' h

/-- Numbering changes no number of conditions. -/
theorem length_bindable_numbered (q : Query) : q.numbered.bindable.length = q.bindable.length := by
  have hlength := congrArg List.length q.map_index_params_numbered
  have hparams := congrArg List.length q.numbered.map_params_bindable
  simp only [List.length_map, List.length_range'] at hlength hparams
  rw [hparams, hlength]

/-- A numbered query shows 1, 2, 3 and so on. -/
theorem shows_sql_numbered (q : Query) :
    Shows q.numbered.sql (List.range' 1 (q.valueCount + q.bindable.length)) := by
  rw [length_bindable]
  cases q with
  | select q =>
    rw [show (Query.select q).valueCount = 0 from rfl, Nat.zero_add]
    exact q.shows_sql_number 1
  | insert q => exact q.shows_sql
  | update q => exact q.shows_sql_numbered
  | delete q =>
    rw [show (Query.delete q).valueCount = 0 from rfl, Nat.zero_add]
    exact q.shows_sql_numbered
  | count q =>
    rw [show (Query.count q).valueCount = 0 from rfl, Nat.zero_add]
    exact q.shows_sql_numbered

/-- A filter of a query stands in its text. -/
theorem sql_isInfix_of_mem_filters {q : Query} {f : Filter} (hf : f ∈ q.filters) :
    f.sql <:+: q.sql := by
  cases q with
  | select q => exact Select.sql_isInfix_of_mem_filters hf
  | insert q => simp [filters] at hf
  | update q =>
    exact List.infix_append_of_infix_right (List.infix_cons
      (List.infix_append_of_infix_left (sql_isInfix_clauseSql hf)))
  | delete q =>
    exact List.infix_append_of_infix_left (List.infix_append_of_infix_right
      (sql_isInfix_clauseSql hf))
  | count q => exact List.infix_append_of_infix_right (sql_isInfix_clauseSql hf)

/-- The condition at place `k` among those that take a value has the parameter at place `k`, shows
the number that this parameter carries and no other, and stands in the text of the query. -/
theorem bindable_at {q : Query} {k : Nat} {leaf : Filter} (hleaf : q.bindable[k]? = some leaf) :
    ∃ p, leaf.params = [p] ∧ q.params[k]? = some p ∧ Sql.indices leaf.sql = [p.index] ∧
      leaf.sql <:+: q.sql := by
  have hat := congrArg (·[k]?) q.map_params_bindable
  simp only [List.getElem?_map, hleaf, Option.map_some] at hat
  obtain ⟨p, hp, hparams⟩ := Option.map_eq_some_iff.mp hat.symm
  obtain ⟨f, hf, hmem⟩ := List.mem_flatMap.mp (List.mem_of_getElem? hleaf)
  have hshows := (Filter.shows_sql_of_mem_bindable hmem).indices_eq
  rw [← hparams] at hshows
  exact ⟨p, hparams.symm, hp, hshows,
    (Filter.sql_isInfix_of_mem_bindable hmem).trans (sql_isInfix_of_mem_filters hf)⟩

/-- The placeholders of a numbered query are 1, 2, 3 and so on, each written once: the new values
first, then the conditions that take a value. The parameters carry the same numbers in the same
order; each stands in its own condition; and binding all parameters of the compiled statement meets
each number of a condition once, in increasing order. -/
theorem placeholders_of_numbered (q : Query) :
    Sql.indices q.numbered.sql = List.range' 1 (q.valueCount + q.bindable.length) ∧
    q.numbered.params.map Param.index = List.range' (q.valueCount + 1) q.bindable.length ∧
    (∀ k leaf, q.numbered.bindable[k]? = some leaf →
      ∃ p, leaf.params = [p] ∧ q.numbered.params[k]? = some p ∧ p.index = q.valueCount + (k + 1) ∧
        Sql.indices leaf.sql = [p.index] ∧ leaf.sql <:+: q.numbered.sql) ∧
    ∀ s slots, q.compile = .ok s →
      (s.bind slots .all).2.binds.map Prod.fst =
        List.range' (q.valueCount + 1) q.bindable.length := by
  refine ⟨q.shows_sql_numbered.indices_eq, q.map_index_params_numbered, ?_, ?_⟩
  · intro k leaf hleaf
    obtain ⟨p, hparams, hp, hshown, hinfix⟩ := bindable_at hleaf
    refine ⟨p, hparams, hp, ?_, hshown, hinfix⟩
    obtain ⟨hk, -⟩ := List.getElem?_eq_some_iff.mp hleaf
    rw [length_bindable_numbered] at hk
    have hindex := congrArg (·[k]?) q.map_index_params_numbered
    simp only [List.getElem?_map, hp, Option.map_some, List.getElem?_range' hk,
      Option.some.injEq] at hindex
    omega
  · intro s slots hs
    obtain ⟨-, hfilters, -⟩ := of_compileWith hs
    have hparams : s.params = q.numbered.params := by
      rw [Prepared.params, hfilters, params_eq_flatMap_filters]
    have hall : s.params.filter BindSelection.all.includes = s.params := by
      simp [BindSelection.includes, BindSelection.all]
    rw [Prepared.bind_binds, hall, hparams, List.map_map, ← q.map_index_params_numbered]
    rfl

/-- An update whose names are full of question marks and quotes shows its own placeholders only. -/
theorem placeholders_of_quoted_names :
    let c : Column := ⟨⟨0⟩, "t?7", 0, "a\"?8", .integer⟩
    let leaf : Filter := .compare .eq (.column c) (.param ⟨.slot ⟨0⟩, 2⟩) false
    let u : Update := ⟨⟨⟨0⟩, "t?7", [⟨"a\"?8", .integer⟩]⟩, [c], some (leaf.number 0), none, none⟩
    let s : Prepared := .update (.prepared u.numbered u.numbered.sql [leaf])
    (Query.update u).compile = .ok s ∧ (Query.update u).numbered.bindable[0]? = some leaf ∧
      Sql.indices u.numbered.sql = [1, 2] ∧
      (∃ p, leaf.params = [p] ∧ (Query.update u).numbered.params[0]? = some p ∧ p.index = 2 ∧
        Sql.indices leaf.sql = [p.index] ∧ leaf.sql <:+: u.numbered.sql) ∧
      (s.bind [] .all).2.binds.map Prod.fst = [2] := by
  intro c leaf u s
  obtain ⟨htext, -, hleaf, hbinds⟩ := placeholders_of_numbered (.update u)
  exact ⟨rfl, rfl, htext, hleaf 0 leaf rfl, hbinds s [] rfl⟩

end Query

end TypedQuery
