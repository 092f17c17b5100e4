import TypedQuery.Proofs.Query.Unambiguous
import TypedQuery.Proofs.Statement.Prepared
import TypedQuery.Proofs.Sql.Keywords

/-!
# Filters read back

A filter is written with parentheses around every connective, so a reader that knows nothing of
filters and groups operators by how tightly they bind finds the tree that the filter is. It stops at
the end of the filter, whichever clause comes next. The exception are names that stand bare although
the grammar takes them as keywords: a filter with such a name is not read at all. Each lemma says
both at once, by what is read `unlessOverlooked` of the names in the text.
-/

set_option autoImplicit false

namespace TypedQuery

open Sql.Reader (Operator Expression)

def Comparison.operator : Comparison → Operator
  | .eq => .eq
  | .ne => .ne
  | .lt => .lt
  | .gt => .gt
  | .le => .le
  | .ge => .ge

def Connective.operator : Connective → Operator
  | .and => .and
  | .or => .or

namespace Skeleton

open Sql Sql.Reader

/-! ## What a filter says -/

def Column.tree (c : Column) : Expression := .column (some c.table) c.name

def Expr.tree : Expr → Expression
  | .column c => c.tree
  | .aggregate function c distinct => .call function.sql distinct c.tree

def Operand.tree : Operand → Expression
  | .expr e => e.tree
  | .placeholder number => .placeholder number
  | .null => .null

/-- The operator of a condition; a comparison with NULL that has a form of its own is read as that
form. -/
def Predicate.operator : Predicate → Operator
  | .compared op _ => op.operator
  | .isNull => .is
  | .isNotNull => .isNot
  | .like _ => .like

def Predicate.right : Predicate → Operand
  | .compared _ right => right
  | .isNull | .isNotNull => .null
  | .like pattern => .placeholder pattern

def Filter.tree : Filter → Expression
  | .condition left predicate => .binary predicate.operator left.tree predicate.right.tree
  | .logical op left right => .binary op.operator left.tree right.tree

/-! ## Trees say all that skeletons say -/

/-- Different comparisons are different operators. -/
theorem comparison_operator_inj {op op' : Comparison} (h : op.operator = op'.operator) :
    op = op' := by
  revert h
  cases op <;> cases op' <;> decide

/-- Different aggregates have different names. -/
theorem aggregate_sql_inj {function function' : Aggregate} (h : function.sql = function'.sql) :
    function = function' := by
  revert h
  cases function <;> cases function' <;> decide

/-- A column is told from its tree. -/
theorem Column.tree_inj {a b : Column} (h : a.tree = b.tree) : a = b := by
  obtain ⟨table, name⟩ := a
  obtain ⟨htable, hname⟩ := Expression.column.inj h
  obtain rfl := Option.some.inj htable
  obtain rfl := hname
  rfl

/-- A column or an aggregate is told from its tree. -/
theorem Expr.tree_inj {a b : Expr} (h : a.tree = b.tree) : a = b := by
  cases a with
  | column c =>
    cases b with
    | column c' => exact congrArg Expr.column (Column.tree_inj h)
    | aggregate function c' distinct => cases h
  | aggregate function c distinct =>
    cases b with
    | column c' => cases h
    | aggregate function' c' distinct' =>
      obtain ⟨hfunction, rfl, hcolumn⟩ := Expression.call.inj h
      rw [aggregate_sql_inj hfunction, Column.tree_inj hcolumn]

/-- An operand is told from its tree. -/
theorem Operand.tree_inj {a b : Operand} (h : a.tree = b.tree) : a = b := by
  have hexpr : ∀ e : Expr, (∀ n, e.tree ≠ .placeholder n) ∧ e.tree ≠ .null := by
    intro e
    cases e <;> exact ⟨nofun, nofun⟩
  cases a with
  | expr e =>
    cases b with
    | expr e' => exact congrArg Operand.expr (Expr.tree_inj h)
    | placeholder n => exact absurd h ((hexpr e).1 n)
    | null => exact absurd h (hexpr e).2
  | placeholder n =>
    cases b with
    | expr e => exact absurd h.symm ((hexpr e).1 n)
    | placeholder m => exact congrArg Operand.placeholder (Expression.placeholder.inj h)
    | null => cases h
  | null =>
    cases b with
    | expr e => exact absurd h.symm (hexpr e).2
    | placeholder n => cases h
    | null => rfl

/-- No comparison is IS, IS NOT or LIKE. -/
theorem comparison_operator_ne (op : Comparison) :
    op.operator ≠ .is ∧ op.operator ≠ .isNot ∧ op.operator ≠ .like := by
  cases op <;> decide

/-- A predicate is told from its operator and its right side. -/
theorem Predicate.eq_of_operator_of_right {p q : Predicate} (hop : p.operator = q.operator)
    (hright : p.right = q.right) : p = q := by
  cases p with
  | compared op right =>
    obtain ⟨his, hisNot, hlike⟩ := comparison_operator_ne op
    cases q with
    | compared op' right' =>
      obtain rfl := comparison_operator_inj hop
      exact congrArg (compared op) hright
    | isNull => exact absurd hop his
    | isNotNull => exact absurd hop hisNot
    | like n => exact absurd hop hlike
  | isNull =>
    cases q with
    | compared op right => exact absurd hop.symm (comparison_operator_ne op).1
    | isNull => rfl
    | isNotNull => cases hop
    | like n => cases hop
  | isNotNull =>
    cases q with
    | compared op right => exact absurd hop.symm (comparison_operator_ne op).2.1
    | isNull => cases hop
    | isNotNull => rfl
    | like n => cases hop
  | like n =>
    cases q with
    | compared op right => exact absurd hop.symm (comparison_operator_ne op).2.2
    | isNull => cases hop
    | isNotNull => cases hop
    | like m => exact congrArg like (Operand.placeholder.inj hright)

/-- No predicate is a connective. -/
theorem Predicate.operator_ne_connective (p : Predicate) (op : Connective) :
    p.operator ≠ op.operator := by
  cases p with
  | compared op' right => cases op' <;> cases op <;> nofun
  | isNull => cases op <;> nofun
  | isNotNull => cases op <;> nofun
  | like n => cases op <;> nofun

/-- Filters that say the same are written from the same skeleton. -/
theorem Filter.tree_inj {f g : Filter} (h : f.tree = g.tree) : f = g := by
  induction f generalizing g with
  | condition left predicate =>
    cases g with
    | condition left' predicate' =>
      obtain ⟨hop, hleft, hright⟩ := Expression.binary.inj h
      obtain rfl := Operand.tree_inj hleft
      exact congrArg (condition left)
        (Predicate.eq_of_operator_of_right hop (Operand.tree_inj hright))
    | logical op left' right' =>
      exact absurd (Expression.binary.inj h).1 (predicate.operator_ne_connective op)
  | logical op left right ihleft ihright =>
    cases g with
    | condition left' predicate =>
      exact absurd (Expression.binary.inj h).1.symm (predicate.operator_ne_connective op)
    | logical op' left' right' =>
      obtain ⟨hop, hleft, hright⟩ := Expression.binary.inj h
      obtain rfl : op = op' := by
        revert hop
        cases op <;> cases op' <;> decide
      rw [ihleft hleft, ihright hright]

/-! ## The names in a filter -/

def Column.names (c : Column) : List String := [c.table, c.name]

def Expr.names : Expr → List String
  | .column c => c.names
  | .aggregate function c _ => function.sql :: c.names

def Operand.names : Operand → List String
  | .expr e => e.names
  | .placeholder _ | .null => []

def Filter.names : Filter → List String
  | .condition left predicate => left.names ++ predicate.right.names
  | .logical _ left right => left.names ++ right.names

/-! ## Operands -/

variable {words : List String}

/-- A name ends in front of a blank, a comma or a closing parenthesis. -/
theorem endsName_of_ends {r : List Char} (h : Ends r) : EndsName r := by
  intro c hc
  rcases h c hc with rfl | rfl | rfl <;> decide

/-- Nothing goes on an expression behind a closing parenthesis. -/
theorem stops_closing (level : Nat) (r : List Char) : Stops level (')' :: r) :=
  stops_of_none rfl level

/-- A column is read as its two names. -/
theorem Column.readPrimary_sql (hwords : ∀ word ∈ words, IsGrammarWord word) (c : Column)
    {rest : List Char} (hrest : EndsName rest) (fuel : Nat) :
    readPrimary words (fuel + 1) (c.sql ++ rest) =
      unlessOverlooked words c.names (some (c.tree, rest)) := by
  rw [sql, List.append_assoc, List.cons_append]
  exact readPrimary_column hwords c.table c.name hrest fuel

/-- The argument of an aggregate is read to the closing parenthesis. -/
theorem Column.readAt_sql (hwords : ∀ word ∈ words, IsGrammarWord word) (c : Column)
    (rest : List Char) (fuel : Nat) :
    readAt words (fuel + 2) 0 (c.sql ++ ')' :: rest) =
      unlessOverlooked words c.names (some (c.tree, ')' :: rest)) := by
  have hclosing : EndsName (')' :: rest) := endsName_of (by decide) rest
  rw [readAt_of_primary (c.readPrimary_sql hwords hclosing fuel),
    extend_of_stops (stops_closing 0 rest)]

/-- A column is not taken for the word that makes an aggregate count distinct values. -/
theorem Column.keyword?_distinct (c : Column) (rest : List Char) :
    keyword? "distinct" (c.sql ++ rest) = none := by
  rw [sql, List.append_assoc, List.cons_append]
  exact keyword?_identifier (by decide) c.table (endsName_of (by decide) _)

/-- The word in front of a column is found if it was written. -/
theorem keyword?_distinctSql (distinct : Bool) (c : Column) (rest : List Char) :
    keyword? "distinct" (distinctSql distinct ++ (c.sql ++ rest)) =
      if distinct then some (' ' :: (c.sql ++ rest)) else none := by
  cases distinct with
  | false => exact c.keyword?_distinct rest
  | true =>
    have hword : lexeme? ("DISTINCT".toList ++ ' ' :: (c.sql ++ rest)) =
        some (.word "DISTINCT".toList, ' ' :: (c.sql ++ rest)) :=
      lexeme?_word (by decide) (endsName_of (by decide) _)
    have htext : distinctSql true ++ (c.sql ++ rest) =
        "DISTINCT".toList ++ ' ' :: (c.sql ++ rest) := rfl
    rw [htext, keyword?, hword]
    rfl

/-- The name of an aggregate is written as a name that needs no quotes. -/
theorem identifier_aggregate (function : Aggregate) :
    identifier function.sql = function.sql.toList := by
  cases function <;> decide

/-- A column or an aggregate is read as one operand. -/
theorem Expr.readPrimary_sql (hwords : ∀ word ∈ words, IsGrammarWord word) (e : Expr)
    {rest : List Char} (hrest : EndsName rest) (fuel : Nat) :
    readPrimary words (fuel + 3) (e.sql ++ rest) =
      unlessOverlooked words e.names (some (e.tree, rest)) := by
  cases e with
  | column c => exact c.readPrimary_sql hwords hrest (fuel + 2)
  | aggregate function c distinct =>
    have htext : (Expr.aggregate function c distinct).sql ++ rest =
        identifier function.sql ++ '(' :: (distinctSql distinct ++ (c.sql ++ ')' :: rest)) := by
      rw [identifier_aggregate]
      simp only [sql, List.append_assoc, List.cons_append, List.nil_append]
    have hopening : lexeme? ('(' :: (distinctSql distinct ++ (c.sql ++ ')' :: rest))) =
      some (.opening, distinctSql distinct ++ (c.sql ++ ')' :: rest)) := rfl
    have hclosing : closing? (')' :: rest) = some rest := rfl
    -- behind the opening parenthesis the column is read alike with or without `DISTINCT`
    have hargument : readAt words (fuel + 2) 0
        ((if distinct then some (' ' :: (c.sql ++ ')' :: rest)) else none).getD
          (distinctSql distinct ++ (c.sql ++ ')' :: rest))) =
        unlessOverlooked words c.names (some (c.tree, ')' :: rest)) := by
      cases distinct with
      | false => exact c.readAt_sql hwords rest fuel
      | true => exact (readAt_space words _ 0 _).trans (c.readAt_sql hwords rest fuel)
    have hdistinct : (if distinct then some (' ' :: (c.sql ++ ')' :: rest)) else none).isSome =
        distinct := by
      cases distinct <;> rfl
    have hnames : (Expr.aggregate function c distinct).names = [function.sql] ++ c.names := rfl
    rw [htext, readPrimary_identifier function.sql (endsName_of (by decide) _),
      name?_nameLexeme hwords, hnames, unlessOverlooked_append, unlessOverlooked_bind]
    simp only [hopening, keyword?_distinctSql, hargument, hdistinct, Option.bind_some,
      unlessOverlooked_bind, hclosing, Option.map_some, tree]

/-- The literal NULL is a word. -/
theorem lexeme?_null {rest : List Char} (hrest : EndsName rest) :
    lexeme? ("NULL".toList ++ rest) = some (.word "NULL".toList, rest) :=
  lexeme?_word (by decide) hrest

/-- An operand is read as what it is. -/
theorem Operand.readPrimary_sql (hwords : ∀ word ∈ words, IsGrammarWord word) (o : Operand)
    {rest : List Char} (hrest : Ends rest) (fuel : Nat) :
    readPrimary words (fuel + 3) (o.sql ++ rest) =
      unlessOverlooked words o.names (some (o.tree, rest)) := by
  cases o with
  | expr e => exact e.readPrimary_sql hwords (endsName_of_ends hrest) fuel
  | placeholder number =>
    have hlexeme : lexeme? ((Operand.placeholder number).sql ++ rest) =
        some (.placeholder number, rest) := lexeme?_placeholder number hrest.noDigitFirst
    rw [readPrimary, hlexeme]
    rfl
  | null =>
    have hlexeme : lexeme? (Operand.null.sql ++ rest) = some (.word "NULL".toList, rest) :=
      lexeme?_null (endsName_of_ends hrest)
    rw [readPrimary, hlexeme]
    rfl

/-! ## Conditions -/

/-- A comparison between blanks is read as its operator. -/
theorem operator?_comparison (op : Comparison) (rest : List Char) :
    operator? (' ' :: (op.sql.toList ++ ' ' :: rest)) = some (op.operator, ' ' :: rest) := by
  cases op <;> rfl

/-- A connective between blanks is read as its operator. -/
theorem operator?_connective (op : Connective) (rest : List Char) :
    operator? (' ' :: (op.sql.toList ++ ' ' :: rest)) = some (op.operator, ' ' :: rest) := by
  cases op <;> rfl

/-- A word between blanks is taken off. -/
theorem lexeme?_keyword {letters : List Char} (h : isWord letters = true) (rest : List Char) :
    lexeme? (' ' :: (letters ++ ' ' :: rest)) = some (.word letters, ' ' :: rest) :=
  (lexeme?_space _).trans (lexeme?_word h (endsName_of (by decide) rest))

/-- The operator of a condition is read, and what is left is the right side. -/
theorem Predicate.operator?_sql (p : Predicate) {rest : List Char} (hrest : Ends rest) :
    operator? (' ' :: (p.sql ++ rest)) = some (p.operator, ' ' :: (p.right.sql ++ rest)) := by
  have hnull : lexeme? (' ' :: ("NULL".toList ++ rest)) = some (.word "NULL".toList, rest) :=
    (lexeme?_space _).trans (lexeme?_null (endsName_of_ends hrest))
  have his : isWord "IS".toList = true := by decide
  have hlike : isWord "LIKE".toList = true := by decide
  cases p with
  | compared op right =>
    have htext : (compared op right).sql ++ rest = op.sql.toList ++ ' ' :: (right.sql ++ rest) :=
      List.append_assoc op.sql.toList (' ' :: right.sql) rest
    rw [htext, operator?_comparison]
    rfl
  | isNull =>
    have hlexeme : lexeme? (' ' :: (isNull.sql ++ rest)) =
        some (.word "IS".toList, ' ' :: ("NULL".toList ++ rest)) :=
      lexeme?_keyword his _
    have hnot : keyword? "not" (' ' :: ("NULL".toList ++ rest)) = none := by
      rw [keyword?, hnull]
      rfl
    rw [operator?, hlexeme]
    change some (afterIs _) = _
    rw [afterIs, hnot]
    rfl
  | isNotNull =>
    have hlexeme : lexeme? (' ' :: (isNotNull.sql ++ rest)) =
        some (.word "IS".toList, ' ' :: ("NOT".toList ++ ' ' :: ("NULL".toList ++ rest))) :=
      lexeme?_keyword his _
    have hnot : keyword? "not" (' ' :: ("NOT".toList ++ ' ' :: ("NULL".toList ++ rest))) =
        some (' ' :: ("NULL".toList ++ rest)) := by
      rw [keyword?, lexeme?_keyword (by decide)]
      rfl
    rw [operator?, hlexeme]
    change some (afterIs _) = _
    rw [afterIs, hnot]
    rfl
  | like pattern =>
    have hlexeme : lexeme? (' ' :: ((like pattern).sql ++ rest)) =
        some (.word "LIKE".toList, ' ' :: (placeholderSql pattern ++ rest)) :=
      lexeme?_keyword hlike _
    rw [operator?, hlexeme]
    rfl

/-- Every predicate binds more tightly than the connectives. -/
theorem Predicate.two_le_level (p : Predicate) : 2 ≤ p.operator.level := by
  cases p with
  | compared op right =>
    change 2 ≤ op.operator.level
    cases op <;> decide
  | isNull => exact Nat.le_refl 2
  | isNotNull => exact Nat.le_refl 2
  | like pattern => exact Nat.le_refl 2

/-! ## Filters -/

/-- A filter has a text. -/
theorem Filter.length_sql_pos (f : Filter) : 0 < f.sql.length := by
  cases f with
  | condition left predicate =>
    rw [sql, List.length_append, List.length_cons]
    omega
  | logical op left right =>
    rw [sql, List.length_cons]
    omega

/-- A condition is read up to its end by a reader at its level or below. -/
theorem Filter.readAt_condition (hwords : ∀ word ∈ words, IsGrammarWord word) (left : Operand)
    (predicate : Predicate) {level : Nat} (hlevel : level ≤ 2) {rest : List Char}
    (hrest : Ends rest) (hstops : Stops 2 rest) (fuel : Nat) :
    readAt words (fuel + 6) level ((condition left predicate).sql ++ rest) =
      unlessOverlooked words (condition left predicate).names
        (extend words (fuel + 4) level (condition left predicate).tree rest) := by
  have hop := predicate.operator?_sql hrest
  have htwo := predicate.two_le_level
  have htext : (condition left predicate).sql ++ rest =
      left.sql ++ ' ' :: (predicate.sql ++ rest) := List.append_assoc ..
  have hleft : readPrimary words (fuel + 5) (left.sql ++ ' ' :: (predicate.sql ++ rest)) =
      unlessOverlooked words left.names (some (left.tree, ' ' :: (predicate.sql ++ rest))) :=
    left.readPrimary_sql hwords (ends_cons (by decide)) (fuel + 2)
  have hright : readAt words (fuel + 4) (predicate.operator.level + 1)
      (' ' :: (predicate.right.sql ++ rest)) =
        unlessOverlooked words predicate.right.names (some (predicate.right.tree, rest)) := by
    rw [readAt_space, readAt_of_primary (predicate.right.readPrimary_sql hwords hrest fuel),
      extend_of_stops (hstops.mono (by omega))]
  rw [htext, readAt_of_primary hleft, extend_of_operator hop (by omega) hright, names,
    unlessOverlooked_append]
  rfl

/-- The connectives bind less tightly than every predicate. -/
theorem connective_level_le (op : Connective) : op.operator.level ≤ 1 := by
  cases op <;> decide

/-- What stands in the parentheses of a connective behind its left side. -/
def behindLeft (op : Connective) (right : Filter) (rest : List Char) : List Char :=
  ' ' :: (op.sql.toList ++ ' ' :: (right.sql ++ ')' :: rest))

/-- The text of a connective begins with the text of its left side. -/
theorem Filter.sql_logical_append (op : Connective) (left right : Filter) (rest : List Char) :
    (logical op left right).sql ++ rest = '(' :: (left.sql ++ behindLeft op right rest) := by
  simp only [sql, behindLeft, List.append_assoc, List.cons_append, List.nil_append]

/-- Behind the left side its connective is read. -/
theorem operator?_behindLeft (op : Connective) (right : Filter) (rest : List Char) :
    operator? (behindLeft op right rest) =
      some (op.operator, ' ' :: (right.sql ++ ')' :: rest)) :=
  operator?_connective op _

/-- The left side ends in front of its connective. -/
theorem ends_behindLeft (op : Connective) (right : Filter) (rest : List Char) :
    Ends (behindLeft op right rest) :=
  ends_cons (by decide)

/-- The left side is not gone on by its connective at the level of predicates. -/
theorem stops_behindLeft (op : Connective) (right : Filter) (rest : List Char) :
    Stops 2 (behindLeft op right rest) := by
  intro op' after hop
  rw [operator?_behindLeft] at hop
  obtain ⟨rfl, -⟩ := Prod.mk.inj (Option.some.inj hop)
  exact Nat.lt_succ_of_le (connective_level_le op)

/-- A connective between parentheses is one operand, if both of its sides are read to their ends. -/
theorem Filter.readPrimary_logical {op : Connective} {left right : Filter} {rest : List Char}
    {fuel fuelLeft fuelRight : Nat}
    (hleft : readAt words fuel 0 (left.sql ++ behindLeft op right rest) =
      unlessOverlooked words left.names
        (extend words (fuelLeft + 2) 0 left.tree (behindLeft op right rest)))
    (hright : readAt words (fuelLeft + 1) (op.operator.level + 1) (right.sql ++ ')' :: rest) =
      unlessOverlooked words right.names
        (extend words (fuelRight + 1) (op.operator.level + 1) right.tree (')' :: rest))) :
    readPrimary words (fuel + 1) ((logical op left right).sql ++ rest) =
      unlessOverlooked words (logical op left right).names
        (some ((logical op left right).tree, rest)) := by
  have hoperand : readAt words (fuelLeft + 1) (op.operator.level + 1)
      (' ' :: (right.sql ++ ')' :: rest)) =
        unlessOverlooked words right.names (some (right.tree, ')' :: rest)) := by
    rw [readAt_space, hright, extend_of_stops (stops_closing _ rest)]
  have hinside : readAt words fuel 0 (left.sql ++ behindLeft op right rest) =
      unlessOverlooked words (logical op left right).names
        (some ((logical op left right).tree, ')' :: rest)) := by
    rw [hleft, extend_of_operator (operator?_behindLeft op right rest) (Nat.zero_le _) hoperand,
      extend_of_stops (stops_closing 0 rest), names, unlessOverlooked_append]
    rfl
  have hlexeme : lexeme? ('(' :: (left.sql ++ behindLeft op right rest)) =
    some (.opening, left.sql ++ behindLeft op right rest) := rfl
  rw [sql_logical_append, readPrimary, hlexeme]
  simp only [hinside, unlessOverlooked_bind, Option.bind_some]
  rfl

/-- A filter is read up to its end by a reader at the level of conditions or below it: what is left
to do is to go on with what follows. -/
theorem Filter.readAt_sql (hwords : ∀ word ∈ words, IsGrammarWord word) (f : Filter) {level : Nat}
    (hlevel : level ≤ 2) {rest : List Char} (hrest : Ends rest) (hstops : Stops 2 rest) {fuel : Nat}
    (hfuel : 3 * (f.sql ++ rest).length + 3 ≤ fuel) :
    ∃ fuel', 3 * rest.length + 1 ≤ fuel' ∧
      readAt words fuel level (f.sql ++ rest) =
        unlessOverlooked words f.names (extend words fuel' level f.tree rest) := by
  -- on the tree; what follows and the level vary, for each side of a connective has its own
  induction f generalizing level rest fuel with
  | condition left predicate =>
    have hlength := (condition left predicate).length_sql_pos
    rw [List.length_append] at hfuel
    obtain ⟨fuel, rfl⟩ : ∃ k, fuel = k + 6 := ⟨fuel - 6, by omega⟩
    exact ⟨fuel + 4, by omega, readAt_condition hwords left predicate hlevel hrest hstops fuel⟩
  | logical op left right ihleft ihright =>
    have hlength : ((logical op left right).sql ++ rest).length =
        (left.sql ++ behindLeft op right rest).length + 1 := by
      rw [sql_logical_append, List.length_cons]
    have hbehind : (right.sql ++ ')' :: rest).length + 2 ≤ (behindLeft op right rest).length := by
      simp only [behindLeft, List.length_cons, List.length_append]
      omega
    have hclosing : rest.length + 1 ≤ (right.sql ++ ')' :: rest).length := by
      simp only [List.length_cons, List.length_append]
      omega
    obtain ⟨fuel, rfl⟩ : ∃ k, fuel = k + 3 := ⟨fuel - 3, by omega⟩
    have hfits : 3 * (left.sql ++ behindLeft op right rest).length + 3 ≤ fuel + 1 := by omega
    -- the left side is read from the parenthesis on, the right one above its connective, where no
    -- connective is read any more
    obtain ⟨fuelLeft, hfuelLeft, hleft⟩ := ihleft (Nat.zero_le 2) (ends_behindLeft op right rest)
      (stops_behindLeft op right rest) hfits
    obtain ⟨fuelLeft, rfl⟩ : ∃ k, fuelLeft = k + 2 := ⟨fuelLeft - 2, by omega⟩
    have hfitsRight : 3 * (right.sql ++ ')' :: rest).length + 3 ≤ fuelLeft + 1 := by omega
    obtain ⟨fuelRight, hfuelRight, hright⟩ := ihright
      (Nat.succ_le_succ (connective_level_le op)) (ends_cons (by decide)) (stops_closing 2 rest)
      hfitsRight
    obtain ⟨fuelRight, rfl⟩ : ∃ k, fuelRight = k + 1 := ⟨fuelRight - 1, by omega⟩
    refine ⟨fuel + 2, ?_, readAt_of_primary (readPrimary_logical hleft hright) level⟩
    rw [List.length_append] at hfits
    omega

/-- A filter is read to its end if what follows it is no operator. -/
theorem Filter.readExpression_sql (hwords : ∀ word ∈ words, IsGrammarWord word) (f : Filter)
    {rest : List Char} (hrest : Ends rest) (hnone : operator? rest = none) :
    readExpression words (f.sql ++ rest) =
      unlessOverlooked words f.names (some (f.tree, rest)) := by
  obtain ⟨fuel, hfuel, hread⟩ := f.readAt_sql hwords (Nat.zero_le 2) hrest (stops_of_none hnone 2)
    (Nat.le_refl (3 * (f.sql ++ rest).length + 3))
  obtain ⟨fuel, rfl⟩ : ∃ k, fuel = k + 1 := ⟨fuel - 1, by omega⟩
  rw [readExpression, hread, extend_of_stops (stops_of_none hnone 0)]

/-! ## What follows a filter -/

/-- A clause begins with a word that is no operator. -/
theorem operator?_of_startsWith {w : String} {r : List Char} (hw : w ∈ joinWords)
    (h : StartsWith w r) : operator? r = none := by
  obtain ⟨hhead, hlead⟩ := h
  have hwords : ∀ w ∈ joinWords, isWord w.toList = true ∧ isKeyword "or" w.toList = false ∧
      isKeyword "and" w.toList = false ∧ isKeyword "like" w.toList = false ∧
      isKeyword "is" w.toList = false := by
    decide
  obtain ⟨hword, hor, hand, hlike, his⟩ := hwords w hw
  obtain ⟨after, rfl⟩ : ∃ after, r = ' ' :: after := by
    cases r with
    | nil => cases hhead
    | cons c r => exact ⟨r, by rw [Option.some.inj hhead]⟩
  -- the word is followed by another space or by nothing
  have htext : after = w.toList ++ after.dropWhile (· != ' ') := by
    rw [← hlead]
    exact List.takeWhile_append_dropWhile.symm
  have hend : EndsName (after.dropWhile (· != ' ')) := by
    intro c hc
    have hspace := List.head?_dropWhile_not (· != ' ') after
    rw [Option.mem_def.mp hc] at hspace
    obtain rfl : c = ' ' := by simpa using hspace
    decide
  have hlexeme : lexeme? (' ' :: after) =
      some (.word w.toList, after.dropWhile (· != ' ')) := by
    rw [lexeme?_space]
    conv_lhs => rw [htext]
    exact lexeme?_word hword hend
  simp [operator?, hlexeme, hor, hand, hlike, his]

/-- A filter is read to its end if a clause follows it, or nothing. -/
theorem Filter.readExpression_of_follows (hwords : ∀ word ∈ words, IsGrammarWord word) (f : Filter)
    {rest : List Char} (hrest : Follows joinWords rest) :
    readExpression words (f.sql ++ rest) =
      unlessOverlooked words f.names (some (f.tree, rest)) := by
  refine readExpression_sql hwords f hrest.closes.ends ?_
  rcases hrest with rfl | ⟨w, hw, hstart⟩
  · rfl
  · exact operator?_of_startsWith hw hstart

end Skeleton

/-! ## Filters in queries -/

open Sql Sql.Reader
open Skeleton (joinWords)

/-- Whether a text goes on a filter with a clause, or with nothing and then with what follows. -/
def GoesOn (text : List Char) : Prop :=
  ∀ rest, Follows joinWords rest → Follows joinWords (text ++ rest)

/-- Two texts that go on a filter do so one behind the other. -/
theorem goesOn_append {s t : List Char} (hs : GoesOn s) (ht : GoesOn t) : GoesOn (s ++ t) := by
  intro rest hrest
  rw [List.append_assoc]
  exact hs _ (ht rest hrest)

/-- A clause goes on a filter with its keyword, or is not there. -/
theorem goesOn_clauseSql {w keyword : String} (hw : w ∈ joinWords)
    (hk : ∀ x, StartsWith w (keyword.toList ++ x)) (clause : Option (List Char)) :
    GoesOn (clauseSql keyword clause) := by
  intro rest hrest
  refine (follows_clauseSql hk clause hrest).mono ?_
  exact List.cons_subset.mpr ⟨hw, List.Subset.refl _⟩

/-- The ordering and the limit go on a filter. -/
theorem goesOn_trailingSql (orderBy : Option OrderBy) (limit : Option Limit) :
    GoesOn (trailingSql orderBy limit) := by
  refine goesOn_append
    (goesOn_clauseSql (w := "ORDER") (by decide) Skeleton.order_startsWith _) ?_
  cases limit with
  | none => exact fun rest hrest => hrest
  | some l =>
    intro rest _
    have hstart : StartsWith "LIMIT" (clauseSql " " ((some l).map Limit.sql) ++ rest) := ⟨rfl, rfl⟩
    exact hstart.follows (by decide)

/-- Whether a filter stands in a text in front of a clause or at the end, provided that a clause or
nothing follows the text. -/
def Filter.StandsIn (f : Filter) (text : List Char) : Prop :=
  ∀ rest, Follows joinWords rest → ∃ before after,
    text ++ rest = before ++ (f.sql ++ after) ∧ Follows joinWords after

namespace Filter.StandsIn

variable {f : Filter} {s t : List Char}

/-- A filter stands in its own text. -/
theorem self (f : Filter) : f.StandsIn f.sql := fun rest hrest => ⟨[], rest, rfl, hrest⟩

/-- A filter stands in a text however that begins. -/
theorem prepend (h : f.StandsIn t) (s : List Char) : f.StandsIn (s ++ t) := by
  intro rest hrest
  obtain ⟨before, after, heq, hafter⟩ := h rest hrest
  exact ⟨s ++ before, after, by rw [List.append_assoc, heq, List.append_assoc], hafter⟩

/-- A filter stands in a text that is gone on. -/
theorem append (h : f.StandsIn t) (hs : GoesOn s) : f.StandsIn (t ++ s) := by
  intro rest hrest
  rw [List.append_assoc]
  exact h _ (hs rest hrest)

/-- A filter stands in its clause. -/
theorem clause {clause : Option Filter} (h : f ∈ clause.toList) (keyword : String) :
    f.StandsIn (clauseSql keyword (clause.map Filter.sql)) := by
  obtain rfl := Option.mem_toList.mp h
  exact (self f).prepend keyword.toList

end Filter.StandsIn

/-- What a join adds to the text of a chain begins with the word of its kind. -/
theorem goesOn_join (kind : JoinKind) (text : List Char) :
    GoesOn (' ' :: (kind.sql.toList ++ ' ' :: text)) := by
  intro rest _
  have hstart : StartsWith (Skeleton.leadWord kind)
      (' ' :: (kind.sql.toList ++ ' ' :: text) ++ rest) := by
    rw [List.cons_append, List.append_assoc]
    exact ⟨rfl, Skeleton.lead_joinKind kind (text ++ rest)⟩
  refine hstart.follows ?_
  cases kind <;> decide

/-- What a set operator adds to the text of a selection begins with the word of the operator. -/
theorem goesOn_setOperator (op : SetOperator) (text : List Char) :
    GoesOn (' ' :: (op.sql.toList ++ ' ' :: text)) := by
  intro rest _
  have hstart : StartsWith (Skeleton.operatorWord op)
      (' ' :: (op.sql.toList ++ ' ' :: text) ++ rest) := by
    rw [List.cons_append, List.append_assoc]
    exact ⟨rfl, Skeleton.lead_setOperator op (text ++ rest)⟩
  refine hstart.follows ?_
  cases op <;> decide

/-- The filters of joins stand in the text of the relation. -/
theorem Relation.standsIn_of_mem_filters {r : Relation} {f : Filter} (hf : f ∈ r.filters) :
    f.StandsIn r.sql := by
  induction r with
  | table t => cases hf
  | join left kind right constraint ih =>
    let tail := Sql.identifier right.name ++ clauseSql "" (constraint.map JoinConstraint.sql)
    have htext : (left.join kind right constraint).sql =
        left.sql ++ ' ' :: (kind.sql.toList ++ ' ' :: tail) := by
      simp only [Relation.sql, tail, List.append_assoc, List.cons_append]
    rcases List.mem_append.mp hf with hleft | hconstraint
    · rw [htext]
      exact (ih hleft).append (goesOn_join kind tail)
    · rcases constraint with _ | ⟨g | columns⟩
      · cases hconstraint
      · obtain rfl : g = f := Option.some.inj (Option.mem_toList.mp hconstraint)
        exact ((Filter.StandsIn.self g).prepend " ON ".toList).prepend _
      · cases hconstraint

/-- The filters of a part stand in its text. -/
theorem SelectPart.standsIn_of_mem_filters {p : SelectPart} {f : Filter} (hf : f ∈ p.filters) :
    f.StandsIn p.headSql := by
  have hwhere := goesOn_clauseSql (w := "WHERE") (by decide) Skeleton.where_startsWith
    (p.filter.map Filter.sql)
  have hgroup := goesOn_clauseSql (w := "GROUP") (by decide) Skeleton.group_startsWith
    (p.groupBy.map fun cs => Sql.separated ", " (cs.map Column.sql))
  have hhaving := goesOn_clauseSql (w := "HAVING") (by decide) Skeleton.having_startsWith
    (p.having.map Filter.sql)
  rcases List.mem_append.mp hf with hfirst | hlast
  · rcases List.mem_append.mp hfirst with hjoin | hfilter
    · exact (((Relation.standsIn_of_mem_filters hjoin).prepend _).append hwhere).append hgroup
        |>.append hhaving
    · exact (((Filter.StandsIn.clause hfilter " WHERE ").prepend _).append hgroup).append hhaving
  · exact (Filter.StandsIn.clause hlast " HAVING ").prepend _

/-- The filters of a selection stand in its text. -/
theorem Select.standsIn_of_mem_filters {q : Select} {f : Filter} (hf : f ∈ q.filters) :
    f.StandsIn q.sql := by
  induction q with
  | simple part => exact (SelectPart.standsIn_of_mem_filters hf).append (goesOn_trailingSql _ _)
  | compound part op other ih =>
    have htext : (compound part op other).sql =
        part.headSql ++ ' ' :: (op.sql.toList ++ ' ' :: other.sql)
          ++ trailingSql part.orderBy part.limit := by
      simp only [Select.sql, List.append_assoc, List.cons_append]
    rcases List.mem_append.mp hf with hpart | hother
    · rw [htext]
      exact ((SelectPart.standsIn_of_mem_filters hpart).append (goesOn_setOperator op other.sql))
        |>.append (goesOn_trailingSql _ _)
    · rw [htext]
      exact (((((ih hother).prepend [' ']).prepend op.sql.toList).prepend [' ']).prepend _).append
        (goesOn_trailingSql _ _)

/-- Every filter of a query stands in its text in front of a clause or at the end. -/
theorem Query.standsIn_of_mem_filters {q : Query} {f : Filter} (hf : f ∈ q.filters) :
    f.StandsIn q.sql := by
  cases q with
  | select q => exact Select.standsIn_of_mem_filters hf
  | insert q => cases hf
  | update q =>
    exact (((Filter.StandsIn.clause hf " WHERE ").append (goesOn_trailingSql _ _)).prepend
      [')']).prepend _
  | delete q =>
    exact ((Filter.StandsIn.clause hf " WHERE ").prepend _).append (goesOn_trailingSql _ _)
  | count q => exact (Filter.StandsIn.clause hf " WHERE ").prepend _

/-- A filter is read back from its text, save for the words of the grammar that are written bare.
Whatever its names and indices are, the reader takes the whole text and finds the tree of the
filter, in which nothing of its skeleton is lost, and it stops at the end of the filter if a clause
follows, unless a name in the filter is overlooked: then it reads nothing. In the text of a query a
clause, or nothing, follows each of its filters. The unlisted words are overlooked in every case of
their letters, the operators `ESCAPE`, `ISNULL` and `NOTNULL` among them. -/
theorem Filter.readExpression_sql_append {words : List String}
    (hwords : ∀ word ∈ words, IsGrammarWord word) (hunlisted : unlistedWords ⊆ words) :
    (∀ f : Filter, readExpression words f.sql =
      if f.skeleton.names.any (overlooked words) then none else some (f.skeleton.tree, [])) ∧
    (∀ (f : Filter) (rest : List Char), Follows joinWords rest →
      readExpression words (f.sql ++ rest) =
        if f.skeleton.names.any (overlooked words) then none
        else some (f.skeleton.tree, rest)) ∧
    (∀ (f : Filter) (q : Query), f ∈ q.filters → ∃ before after,
      q.sql = before ++ (f.sql ++ after) ∧ Follows joinWords after ∧
      readExpression words (f.sql ++ after) =
        if f.skeleton.names.any (overlooked words) then none
        else some (f.skeleton.tree, after)) ∧
    (∀ f g : Filter, g.skeleton.tree = f.skeleton.tree → g.skeleton = f.skeleton) ∧
    ∀ word ∈ unlistedWords, ∀ name : String, isKeyword word name.toList = true →
      Sql.identifier name = name.toList ∧ overlooked words name = true := by
  have hread : ∀ (f : Filter) (rest : List Char), Follows joinWords rest →
      readExpression words (f.sql ++ rest) =
        if f.skeleton.names.any (overlooked words) then none
        else some (f.skeleton.tree, rest) := by
    intro f rest hrest
    rw [← f.sql_skeleton]
    exact f.skeleton.readExpression_of_follows hwords hrest
  refine ⟨fun f => ?whole, hread, fun f q hf => ?query, fun f g => Skeleton.Filter.tree_inj,
    fun word hword name hname => overlooked_of_unlisted hwords hunlisted hword hname⟩
  case whole =>
    have hnil := hread f [] (follows_nil joinWords)
    rwa [List.append_nil] at hnil
  case query =>
    obtain ⟨before, after, hsql, hafter⟩ := Query.standsIn_of_mem_filters hf [] (follows_nil _)
    rw [List.append_nil] at hsql
    exact ⟨before, after, hsql, hafter, hread f after hafter⟩

-- Without parentheses a condition would be read as another one: `AND` takes its left side away from
-- `OR`.
example : readExpression reservedWords "t.a = ?1 OR t.b = ?2 AND t.c = ?3".toList =
    some (.binary .or (.binary .eq (.column (some "t") "a") (.placeholder 1))
      (.binary .and (.binary .eq (.column (some "t") "b") (.placeholder 2))
        (.binary .eq (.column (some "t") "c") (.placeholder 3))), []) := by
  decide +kernel

/-- Quotes, parentheses and reserved words in names change nothing, and neither does the clause
behind. -/
theorem Filter.readExpression_sql_append_of_keywords :
    let words := reservedWords ++ unlistedWords
    let a : Column := ⟨⟨1⟩, "order", 0, "a\" OR (\"b", .integer⟩
    let b : Column := ⟨⟨1⟩, "order", 1, "null", .text⟩
    let f := Filter.and
      (.or (.compare .lt (.column a) (.param ⟨.slot ⟨0⟩, 3⟩) true)
        (.compare .ne (.aggregate .count b true) .null false))
      (.like b ⟨.slot ⟨1⟩, 4⟩)
    let clause := " GROUP BY t.c".toList
    (∀ word ∈ words, IsGrammarWord word) ∧ unlistedWords ⊆ words ∧
      readExpression words (f.sql ++ clause) =
        some (.binary .and
          (.binary .or
            (.binary .lt (.placeholder 3) (.column (some "order") "a\" OR (\"b"))
            (.binary .isNot (.call "COUNT" true (.column (some "order") "null")) .null))
          (.binary .like (.column (some "order") "null") (.placeholder 4)), clause) := by
  intro words a b f clause
  have hwords : ∀ word ∈ words, IsGrammarWord word := by decide
  have hunlisted : unlistedWords ⊆ words := List.subset_append_right _ _
  have hclause : StartsWith "GROUP" clause := Skeleton.group_startsWith "t.c".toList
  have hread := (Filter.readExpression_sql_append hwords hunlisted).2.1 f clause
    (hclause.follows (by decide))
  have hnames : f.skeleton.names.any (overlooked words) = false := by decide +kernel
  rw [hnames] at hread
  exact ⟨hwords, hunlisted, hread⟩

/-- A column that is named like an operator of the grammar is written bare, and a condition on it is
not read. -/
theorem Filter.unlisted_operator_not_read :
    let words := reservedWords ++ unlistedWords
    let column : Column := ⟨⟨1⟩, "t", 0, "isnull", .integer⟩
    let f := Filter.compare .eq (.column column) (.param ⟨.slot ⟨0⟩, 1⟩) false
    f.sql = "t.isnull = ?1".toList ∧
      f.skeleton.tree = .binary .eq (.column (some "t") "isnull") (.placeholder 1) ∧
      readExpression words f.sql = none := by
  decide +kernel

end TypedQuery
