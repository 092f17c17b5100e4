import TypedQuery.Proofs.Query.ReadBack
import TypedQuery.Proofs.Sql.Pieces
import Mathlib.Data.List.Forall2

/-!
# Names in their places

The places of a query are what its text is written as: names of tables and columns, and between them
the words, signs and numbers of the statement. The whole text is cut into one piece for each of its
places (`Query.pieces_sql`), so that each written name is read as a name by itself, whatever stands
around it. Bare names are told from keywords by their letters alone. The names that are never bare
are those of the reserved words; a word of the grammar that is not among these is read as a keyword
where it is meant as a name.
-/

set_option autoImplicit false

namespace TypedQuery

open Sql Sql.Reader

namespace Skeleton

/-! ## Expressions -/

/-- A column is its two names with a dot between them. -/
def Column.places (c : Column) : List Place := [.name c.table, .dot, .name c.name]

/-- An aggregate is its function with the column between parentheses. -/
def Expr.places : Expr → List Place
  | .column c => c.places
  | .aggregate function c distinct =>
    phrase function.sql ++
      .opening :: ((if distinct then phrase "DISTINCT" else []) ++ (c.places ++ [.closing]))

/-- An operand is an expression, a placeholder or the word NULL. -/
def Operand.places : Operand → List Place
  | .expr e => e.places
  | .placeholder number => [.placeholder number]
  | .null => phrase "NULL"

/-- A predicate is its operator and what it compares with. -/
def Predicate.places : Predicate → List Place
  | .compared op right => .comparison op.operator :: right.places
  | .isNull => phrase "IS NULL"
  | .isNotNull => phrase "IS NOT NULL"
  | .like pattern => phrase "LIKE" ++ [.placeholder pattern]

/-- A connective stands between parentheses with its two sides. -/
def Filter.places : Filter → List Place
  | .condition left predicate => left.places ++ predicate.places
  | .logical op left right =>
    .opening :: (left.places ++ (phrase op.sql ++ (right.places ++ [.closing])))

/-- A blank ends everything that is written. -/
theorem ends_space (rest : List Char) : Ends (' ' :: rest) := ends_cons (by decide)

/-- A closing parenthesis ends everything that is written. -/
theorem ends_closing (rest : List Char) : Ends (')' :: rest) := ends_cons (by decide)

/-- A closing parenthesis is one piece. -/
theorem cutInto_closing : CutInto Anything [')'] [.closing] := (CutInto.nil Anything).closing

/-- The text of a column, in front of what ends a name. -/
theorem Column.cutInto (c : Column) : CutInto EndsName c.sql c.places :=
  (cutInto_identifier c.table).append ((cutInto_identifier c.name).sign fun _ => rfl)
    fun _ _ => endsName_of (by decide) _

/-- The text of a column, in front of a blank, a comma or a parenthesis. -/
theorem Column.cutInto_ends (c : Column) : CutInto Ends c.sql c.places :=
  c.cutInto.mono fun _ => endsName_of_ends

/-- The word in front of the column of an aggregate, if there is one. -/
theorem cutInto_distinctSql (distinct : Bool) :
    CutInto Anything (distinctSql distinct) (if distinct then phrase "DISTINCT" else []) := by
  cases distinct with
  | false => exact .nil Anything
  | true => exact cutInto_phrase_space "DISTINCT" (by decide) (.nil Anything)

/-- The text of a column or of an aggregate. -/
theorem Expr.cutInto (e : Expr) : CutInto Ends e.sql e.places := by
  cases e with
  | column c => exact c.cutInto_ends
  | aggregate function c distinct =>
    have hfunction : (function.sql.toList.splitOn ' ').all isWord = true := by
      cases function <;> decide
    have hargument : CutInto Anything (c.sql ++ [')']) (c.places ++ [.closing]) :=
      c.cutInto.append cutInto_closing fun _ _ => endsName_of (by decide) _
    have hcall := ((cutInto_distinctSql distinct).append_free hargument).opening
    exact ((cutInto_phrase function.sql hfunction).append hcall
      fun _ _ => endsName_of (by decide) _).mono fun _ _ => trivial

/-- A placeholder is one piece. -/
theorem cutInto_placeholderSql (number : Nat) :
    CutInto Ends (placeholderSql number) [.placeholder number] :=
  (cutInto_placeholder number).mono fun _ => Ends.noDigitFirst

/-- Words with blanks between them are one piece each. -/
theorem cutInto_words (words : String) (h : (words.toList.splitOn ' ').all isWord = true) :
    CutInto Ends words.toList (phrase words) :=
  (cutInto_phrase words h).mono fun _ => endsName_of_ends

/-- The text of an operand. -/
theorem Operand.cutInto (o : Operand) : CutInto Ends o.sql o.places := by
  cases o with
  | expr e => exact e.cutInto
  | placeholder number => exact cutInto_placeholderSql number
  | null => exact cutInto_words _ (by decide)

/-- The sign of a comparison is one piece in front of a blank. -/
theorem cutInto_comparison (op : Comparison) :
    CutInto Anything (op.sql.toList ++ [' ']) [.comparison op.operator] := by
  intro rest _
  have hpiece : piece? (op.sql.toList ++ ' ' :: rest) =
      some ((Place.comparison op.operator).piece, ' ' :: rest) := by
    cases op <;> rfl
  rw [List.append_assoc]
  exact (pieces_of_piece? hpiece).trans (by rw [pieces_space]; rfl)

/-- The text of a predicate. -/
theorem Predicate.cutInto (p : Predicate) : CutInto Ends p.sql p.places := by
  cases p with
  | compared op right =>
    have hop := (cutInto_comparison op).append_free right.cutInto
    rwa [List.append_assoc] at hop
  | isNull => exact cutInto_words _ (by decide)
  | isNotNull => exact cutInto_words _ (by decide)
  | like pattern =>
    exact cutInto_phrase_space "LIKE" (by decide) (cutInto_placeholderSql pattern)

/-- The text of a filter. -/
theorem Filter.cutInto (f : Filter) : CutInto Ends f.sql f.places := by
  induction f with
  | condition left predicate =>
    exact left.cutInto.append predicate.cutInto.space fun _ _ => ends_space _
  | logical op left right ihleft ihright =>
    have hop : (op.sql.toList.splitOn ' ').all isWord = true := by
      cases op <;> decide
    have hright : CutInto Ends (right.sql ++ [')']) (right.places ++ [.closing]) :=
      ihright.append (cutInto_closing.mono fun _ _ => trivial) fun _ _ => ends_closing _
    exact (ihleft.append (cutInto_phrase_space op.sql hop hright).space fun _ _ =>
      ends_space _).opening

/-! ## Relations and clauses -/

/-- Names with commas between them. -/
def namesPlaces (names : List String) : List Place := listed (fun name => [.name name]) names

/-- A join is constrained by a filter or by shared names between parentheses. -/
def Constraint.places : Constraint → List Place
  | .condition filter => phrase "ON" ++ filter.places
  | .shared names => phrase "USING" ++ .opening :: (namesPlaces names ++ [.closing])

/-- A join is the words of its kind, the name of its table and its constraint. -/
def Join.places (j : Join) : List Place :=
  phrase j.kind.sql ++ .name j.right :: clausePlaces [] Constraint.places j.constraint

/-- A term of an ordering is an expression, its direction and where NULL is placed. -/
def OrderTerm.places (term : OrderTerm) : List Place :=
  term.expr.places ++ (phrase term.direction.sql ++
    clausePlaces [] (fun nulls : NullPlacement => phrase nulls.sql) term.nulls)

/-- A filter behind its keyword, if there is one. -/
def filterPlaces (filter : Option Filter) : List Place :=
  clausePlaces (phrase "WHERE") Filter.places filter

/-- A selection up to its last clause. -/
def Part.places (p : Part) : List Place :=
  phrase "SELECT" ++ (listed Expr.places p.columns ++ (phrase "FROM" ++ .name p.first ::
    (p.joins.flatMap Join.places ++ (filterPlaces p.filter
      ++ (clausePlaces (phrase "GROUP BY") (listed Column.places) p.groupBy
        ++ clausePlaces (phrase "HAVING") Filter.places p.having)))))

/-- A limit is its two numbers. -/
def limitPlaces (l : Limit) : List Place :=
  .sign (.number l.count) :: (phrase "OFFSET" ++ [.sign (.number l.offset)])

/-- What stands behind all parts of a selection: the ordering and the limit. -/
def Trailing.places (t : Trailing) : List Place :=
  clausePlaces (phrase "ORDER BY") (listed OrderTerm.places) t.orderBy
    ++ clausePlaces (phrase "LIMIT") limitPlaces t.limit

/-- A name is one piece, in front of a blank, a comma or a parenthesis. -/
theorem cutInto_name (name : String) : CutInto Ends (identifier name) [.name name] :=
  (cutInto_identifier name).mono fun _ => endsName_of_ends

/-- The text of a list of names. -/
theorem cutInto_namesSql (names : List String) :
    CutInto Ends (namesSql names) (namesPlaces names) :=
  cutInto_separated cutInto_name names

/-- A closing parenthesis is one piece, in front of what ends anything. -/
theorem cutInto_closing_ends : CutInto Ends [')'] [.closing] :=
  cutInto_closing.mono fun _ _ => trivial

/-- The text of a constraint. -/
theorem Constraint.cutInto (c : Constraint) : CutInto Ends c.sql c.places := by
  cases c with
  | condition filter =>
    exact (cutInto_keyword "ON" (by decide)).append_free filter.cutInto
  | shared names =>
    have hnames := (cutInto_namesSql names).append_ends cutInto_closing_ends
      (endsBefore_cons (by decide) [])
    exact (cutInto_keyword "USING" (by decide)).append_free hnames.opening

/-- The text of a constraint begins with a blank. -/
theorem Constraint.endsBefore (c : Constraint) : EndsBefore c.sql := by
  cases c with
  | condition filter => exact endsBefore_cons (by decide) _
  | shared names => exact endsBefore_cons (by decide) _

/-- The words of a kind of join are words of the grammar. -/
theorem joinKind_words (kind : JoinKind) : (kind.sql.toList.splitOn ' ').all isWord = true := by
  cases kind <;> decide

/-- The text of a join. -/
theorem Join.cutInto (j : Join) : CutInto Ends j.sql j.places := by
  have hconstraint : CutInto Ends (clauseSql "" (j.constraint.map Constraint.sql))
      (clausePlaces [] Constraint.places j.constraint) :=
    cutInto_clauseSql "" (.nil Anything) Constraint.cutInto j.constraint
  have hends : EndsBefore (clauseSql "" (j.constraint.map Constraint.sql)) := by
    cases j.constraint with
    | none => exact endsBefore_nil
    | some c => exact c.endsBefore
  have hright := (cutInto_name j.right).append_ends hconstraint hends
  exact (cutInto_phrase_space j.kind.sql (joinKind_words j.kind) hright).space

/-- The text of a term of an ordering. -/
theorem OrderTerm.cutInto (term : OrderTerm) : CutInto Ends term.sql term.places := by
  have hdirection : (term.direction.sql.toList.splitOn ' ').all isWord = true := by
    cases term.direction <;> decide
  have hplacement : ∀ nulls : NullPlacement,
      CutInto Ends nulls.sql.toList (phrase nulls.sql) := by
    intro nulls
    cases nulls <;> exact cutInto_words _ (by decide)
  have hnulls : CutInto Ends (clauseSql " " (term.nulls.map fun nulls => nulls.sql.toList))
      (clausePlaces [] (fun nulls : NullPlacement => phrase nulls.sql) term.nulls) :=
    cutInto_clauseSql " " (CutInto.nil Anything).space hplacement term.nulls
  have hends : EndsBefore (clauseSql " " (term.nulls.map fun nulls => nulls.sql.toList)) :=
    endsBefore_clauseSql " " (fun text => endsBefore_cons (by decide) text) _
  exact term.expr.cutInto.append_ends
    ((cutInto_words _ hdirection).append_ends hnulls hends).space (endsBefore_cons (by decide) _)

/-- A clause behind its keyword. -/
theorem cutInto_clause {α : Type} {text : α → List Char} {item : α → List Place}
    (words keyword : String) (hwords : (words.toList.splitOn ' ').all isWord = true)
    (hkeyword : keyword.toList = ' ' :: (words.toList ++ [' ']))
    (h : ∀ a, CutInto Ends (text a) (item a)) (clause : Option α) :
    CutInto Ends (clauseSql keyword (clause.map text)) (clausePlaces (phrase words) item clause) ∧
      EndsBefore (clauseSql keyword (clause.map text)) := by
  constructor
  · exact cutInto_clauseSql keyword (hkeyword ▸ cutInto_keyword words hwords) h clause
  · refine endsBefore_clauseSql keyword (fun text => ?_) _
    rw [hkeyword]
    exact endsBefore_cons (by decide) _

/-- The text of a filter behind its keyword. -/
theorem cutInto_filterSql (filter : Option Filter) :
    CutInto Ends (filterSql filter) (filterPlaces filter) ∧ EndsBefore (filterSql filter) :=
  cutInto_clause "WHERE" " WHERE " (by decide) rfl Filter.cutInto filter

/-- The text of a selection up to its last clause. -/
theorem Part.cutInto (p : Part) : CutInto Ends p.sql p.places := by
  -- from the last clause to the first: what a clause ends before has to be known
  obtain ⟨hhaving, hhavingEnds⟩ :=
    cutInto_clause "HAVING" " HAVING " (by decide) rfl Filter.cutInto p.having
  obtain ⟨hgroups, hgroupsEnds⟩ := cutInto_clause "GROUP BY" " GROUP BY " (by decide) rfl
    (cutInto_separated Column.cutInto_ends) p.groupBy
  obtain ⟨hfilter, hfilterEnds⟩ := cutInto_filterSql p.filter
  have hjoinEnds : ∀ j : Join, EndsBefore j.sql := fun j => endsBefore_cons (by decide) _
  have hjoins := cutInto_flatMap Join.cutInto hjoinEnds p.joins
  have hclausesEnds := hfilterEnds.append (hgroupsEnds.append hhavingEnds)
  have hclauses := hfilter.append_ends (hgroups.append_ends hhaving hhavingEnds)
    (hgroupsEnds.append hhavingEnds)
  have hfirst := (cutInto_name p.first).append_ends (hjoins.append_ends hclauses hclausesEnds)
    ((endsBefore_flatMap hjoinEnds p.joins).append hclausesEnds)
  have hfrom := (cutInto_phrase_space "FROM" (by decide) hfirst).space
  have hcolumns := (cutInto_separated Expr.cutInto p.columns).append_ends hfrom
    (endsBefore_cons (by decide) _)
  exact cutInto_phrase_space "SELECT" (by decide) hcolumns

/-- The text of a limit. -/
theorem cutInto_limitSql (l : Limit) : CutInto Ends (limitSql l) (limitPlaces l) := by
  have hoffset := (cutInto_phrase_space "OFFSET" (by decide) (cutInto_number l.offset)).space
  exact (cutInto_number l.count).append_ends hoffset (endsBefore_cons (by decide) _)

/-- The text of the ordering and the limit. -/
theorem Trailing.cutInto (t : Trailing) :
    CutInto Ends t.sql t.places ∧ EndsBefore t.sql := by
  obtain ⟨horder, horderEnds⟩ := cutInto_clause "ORDER BY" " ORDER BY " (by decide) rfl
    (cutInto_separated OrderTerm.cutInto) t.orderBy
  obtain ⟨hlimit, hlimitEnds⟩ := cutInto_clause "LIMIT" " LIMIT " (by decide) rfl cutInto_limitSql
    t.limit
  exact ⟨horder.append_ends hlimit hlimitEnds, horderEnds.append hlimitEnds⟩

/-! ## Statements over one table -/

/-- The places of the placeholders of `count` new values. -/
def placeholdersPlaces (count : Nat) : List Place :=
  listed (fun number => [.placeholder number]) (List.range' 1 count)

/-- The text of the placeholders of new values. -/
theorem cutInto_placeholders (count : Nat) :
    CutInto Ends (placeholders count) (placeholdersPlaces count) := by
  have hlist := cutInto_separated cutInto_placeholderSql (List.range' 1 count)
  exact hlist

/-- An insertion without columns inserts the default values. -/
def insertPlaces (table : String) : List String → List Place
  | [] => phrase "INSERT INTO" ++ .name table :: phrase "DEFAULT VALUES"
  | column :: columns =>
    phrase "INSERT INTO" ++ .name table :: .opening :: (namesPlaces (column :: columns) ++
      .closing :: (phrase "VALUES" ++
        .opening :: (placeholdersPlaces (columns.length + 1) ++ [.closing])))

/-- An update sets a list of names to a list of placeholders. -/
def updatePlaces (table : String) (columns : List String) (filter : Option Filter)
    (trailing : Trailing) : List Place :=
  phrase "UPDATE" ++ .name table :: (phrase "SET" ++ .opening :: (namesPlaces columns ++
    .closing :: .comparison .eq :: .opening :: (placeholdersPlaces columns.length ++
      .closing :: (filterPlaces filter ++ trailing.places))))

/-- A deletion is the name of its table, its filter and its trailing clauses. -/
def deletePlaces (table : String) (filter : Option Filter) (trailing : Trailing) : List Place :=
  phrase "DELETE FROM" ++ .name table :: (filterPlaces filter ++ trailing.places)

/-- A count is a star between parentheses, the name of its table and its filter. -/
def countPlaces (table : String) (filter : Option Filter) : List Place :=
  phrase "SELECT COUNT" ++ .opening :: .sign .star :: .closing ::
    (phrase "FROM" ++ .name table :: filterPlaces filter)

/-- The text of an insertion. -/
theorem cutInto_insert (table : String) (columns : List String) :
    CutInto Ends (Query.insert table columns).sql (insertPlaces table columns) := by
  cases columns with
  | nil =>
    have hvalues : CutInto Ends (' ' :: "DEFAULT VALUES".toList) (phrase "DEFAULT VALUES") :=
      (cutInto_words _ (by decide)).space
    exact cutInto_phrase_space "INSERT INTO" (by decide)
      ((cutInto_name table).append_ends hvalues (endsBefore_cons (by decide) _))
  | cons column columns =>
    have hplaceholders := (cutInto_placeholders (columns.length + 1)).append_ends
      cutInto_closing_ends (endsBefore_cons (by decide) _)
    have hvalues := cutInto_phrase_space "VALUES" (by decide) hplaceholders.opening
    have hnames := (cutInto_namesSql (column :: columns)).append_ends hvalues.space.closing
      (endsBefore_cons (by decide) _)
    exact cutInto_phrase_space "INSERT INTO" (by decide)
      ((cutInto_name table).append_ends hnames.opening.space (endsBefore_cons (by decide) _))

/-- The text of an update. -/
theorem cutInto_update (table : String) (columns : List String) (filter : Option Filter)
    (trailing : Trailing) :
    CutInto Ends (Query.update table columns filter trailing).sql
      (updatePlaces table columns filter trailing) := by
  obtain ⟨htrailing, -⟩ := trailing.cutInto
  obtain ⟨hfilter, -⟩ := cutInto_filterSql filter
  have hclauses := hfilter.append_ends htrailing trailing.cutInto.2
  have hplaceholders := (cutInto_placeholders columns.length).append_ends hclauses.closing
    (endsBefore_cons (by decide) _)
  have hequal : CutInto Ends _ _ := (cutInto_comparison .eq).append_free hplaceholders.opening
  have hnames := (cutInto_namesSql columns).append_ends hequal.space.closing
    (endsBefore_cons (by decide) _)
  have hset := cutInto_phrase_space "SET" (by decide) hnames.opening
  exact cutInto_phrase_space "UPDATE" (by decide)
    ((cutInto_name table).append_ends hset.space (endsBefore_cons (by decide) _))

/-- The text of a deletion. -/
theorem cutInto_delete (table : String) (filter : Option Filter) (trailing : Trailing) :
    CutInto Ends (Query.delete table filter trailing).sql (deletePlaces table filter trailing) := by
  obtain ⟨htrailing, htrailingEnds⟩ := trailing.cutInto
  obtain ⟨hfilter, hfilterEnds⟩ := cutInto_filterSql filter
  have htable := (cutInto_name table).append_ends (hfilter.append_ends htrailing htrailingEnds)
    (hfilterEnds.append htrailingEnds)
  exact cutInto_phrase_space "DELETE FROM" (by decide) htable

/-- The text of a count. -/
theorem cutInto_count (table : String) (filter : Option Filter) :
    CutInto Ends (Query.count table filter).sql (countPlaces table filter) := by
  obtain ⟨hfilter, hends⟩ := cutInto_filterSql filter
  have hfrom := cutInto_phrase_space "FROM" (by decide)
    ((cutInto_name table).append_ends hfilter hends)
  have hstar := (hfrom.space.closing.sign (c := '*') (fun _ => rfl)).opening
  exact (cutInto_phrase "SELECT COUNT" (by decide)).append hstar
    fun _ _ => endsName_of (by decide) _

end Skeleton

/-! ## Whole queries -/

open Skeleton (insertPlaces updatePlaces deletePlaces countPlaces)

/-- The places of a selection; the ordering and the limit of its first part come last. -/
def Select.places : Select → List Place
  | .simple part => part.skeleton.places ++ (trailingSkeleton part.orderBy part.limit).places
  | .compound part op other =>
    part.skeleton.places ++
      (phrase op.sql ++ (other.places ++ (trailingSkeleton part.orderBy part.limit).places))

/-- What a query is written as, from left to right. -/
def Query.places : Query → List Place
  | .select q => q.places
  | .insert q => insertPlaces q.table.name (q.columns.map Column.name)
  | .update q =>
    updatePlaces q.table.name (q.columns.map Column.name) (q.filter.map Filter.skeleton)
      (trailingSkeleton q.orderBy q.limit)
  | .delete q =>
    deletePlaces q.table.name (q.filter.map Filter.skeleton) (trailingSkeleton q.orderBy q.limit)
  | .count q => countPlaces q.table.name (q.filter.map Filter.skeleton)

/-- The names in the text of a query, from left to right. -/
def Query.names (q : Query) : List String := q.places.filterMap Place.name?

/-- The text of a part of a selection. -/
theorem SelectPart.cutInto (p : SelectPart) : CutInto Ends p.headSql p.skeleton.places := by
  rw [← p.sql_skeleton]
  exact p.skeleton.cutInto

/-- The text of the ordering and the limit of a query. -/
theorem trailing_cutInto (orderBy : Option OrderBy) (limit : Option Limit) :
    CutInto Ends (trailingSql orderBy limit) (trailingSkeleton orderBy limit).places ∧
      EndsBefore (trailingSql orderBy limit) := by
  rw [← trailingSql_skeleton]
  exact (trailingSkeleton orderBy limit).cutInto

/-- The text of a selection with its set operators. -/
theorem Select.cutInto (q : Select) : CutInto Ends q.sql q.places := by
  induction q with
  | simple part =>
    obtain ⟨htrailing, hends⟩ := trailing_cutInto part.orderBy part.limit
    exact part.cutInto.append_ends htrailing hends
  | compound part op other ih =>
    obtain ⟨htrailing, hends⟩ := trailing_cutInto part.orderBy part.limit
    have hop : (op.sql.toList.splitOn ' ').all isWord = true := by
      cases op <;> decide
    have htext : (compound part op other).sql = part.headSql ++ ' ' :: (op.sql.toList ++
        ' ' :: (other.sql ++ trailingSql part.orderBy part.limit)) := by
      simp only [sql, List.append_assoc, List.cons_append]
    have hother := cutInto_phrase_space op.sql hop (ih.append_ends htrailing hends)
    rw [htext]
    exact part.cutInto.append_ends hother.space (endsBefore_cons (by decide) _)

/-- The text of a query is cut into the places of the query. -/
theorem Query.cutInto (q : Query) : CutInto Ends q.sql q.places := by
  cases q with
  | select q => exact q.cutInto
  | insert q =>
    rw [← Query.sql_skeleton (q := .insert q) nofun]
    exact Skeleton.cutInto_insert _ _
  | update q =>
    rw [← Query.sql_skeleton (q := .update q) nofun]
    exact Skeleton.cutInto_update _ _ _ _
  | delete q =>
    rw [← Query.sql_skeleton (q := .delete q) nofun]
    exact Skeleton.cutInto_delete _ _ _
  | count q =>
    rw [← Query.sql_skeleton (q := .count q) nofun]
    exact Skeleton.cutInto_count _ _

/-- The pieces of a query are what its places are written as, one for each. -/
theorem Query.pieces_sql (q : Query) : pieces q.sql = some (q.places.map Place.piece) :=
  q.cutInto.pieces_eq nofun

/-! ## Names read as names -/

/-- Whether a query is read as it is meant: one piece at each of its places, and at the place of a
name this very name. -/
def Query.Understood (words : List String) (q : Query) : Prop :=
  ∃ read, pieces q.sql = some read ∧ List.Forall₂ (Place.ReadAs words) q.places read

/-- A query is read as it is meant exactly if each of its places is. -/
theorem Query.understood_iff {words : List String} (q : Query) :
    q.Understood words ↔ ∀ place ∈ q.places, place.ReadAs words place.piece := by
  unfold Understood
  rw [q.pieces_sql]
  simp only [Option.some.injEq, exists_eq_left', List.forall₂_map_right_iff, List.forall₂_same]

/-- A name is written between quotes where it has to be, save for the words of the grammar that are
not listed. In the text of every query, whatever the names in it are, one piece stands at each
place: a name is read as exactly this name, whatever its letters and their case are and whatever
goes on behind it, unless it is a keyword in some case that is not among the reserved words. So a
query is read as it is meant exactly if none of its names is such a keyword; the unlisted words
are. -/
theorem names_read_in_place {words : List String} (hwords : ∀ word ∈ words, IsGrammarWord word)
    (hunlisted : unlistedWords ⊆ words) :
    (∀ q : Query, ∃ read, pieces q.sql = some read ∧
      List.Forall₂ (Place.ReadBy words) q.places read) ∧
    (∀ q : Query, q.Understood words ↔ ∀ name ∈ q.names, overlooked words name = false) ∧
    ∀ word ∈ unlistedWords, ∀ name : String, isKeyword word name.toList = true →
      Sql.identifier name = name.toList ∧ overlooked words name = true := by
  refine ⟨fun q => ?read, fun q => ?understood,
    fun word hword name hname => overlooked_of_unlisted hwords hunlisted hword hname⟩
  case read =>
    refine ⟨_, q.pieces_sql, ?_⟩
    rw [List.forall₂_map_right_iff, List.forall₂_same]
    exact fun place _ => Place.readBy_piece hwords place
  case understood =>
    rw [q.understood_iff]
    constructor
    · intro h name hname
      obtain ⟨place, hplace, hfound⟩ := List.mem_filterMap.mp hname
      exact (Place.readAs_piece_iff hwords place).mp (h place hplace) name hfound
    · intro h place hplace
      refine (Place.readAs_piece_iff hwords place).mpr fun name hname => ?_
      exact h name (List.mem_filterMap.mpr ⟨place, hplace, hname⟩)

/-! ### Statements with names of every kind -/

namespace Places

/-- The words that no name can be, as far as they are known. -/
def words : List String := reservedWords ++ unlistedWords

/-- A table whose names need quotes. -/
def orders : Table := ⟨⟨1⟩, "Order \"x\"", [⟨"SELECT", .integer⟩, ⟨"größe", .text⟩]⟩

/-- A table whose names are words of the grammar that are not listed. -/
def added : Table := ⟨⟨2⟩, "Add", [⟨"to", .integer⟩]⟩

/-- Quotes, blanks, reserved words and letters of other scripts. -/
theorem names_read_in_place_of_quotes :
    let select : Column := ⟨⟨1⟩, "Order \"x\"", 0, "SELECT", .integer⟩
    let size : Column := ⟨⟨1⟩, "Order \"x\"", 1, "größe", .text⟩
    let q : Query := .update ⟨orders, [select, size],
      some (.compare .lt (.column select) (.param ⟨.slot ⟨0⟩, 3⟩) false), none, none⟩
    (∀ word ∈ words, IsGrammarWord word) ∧ unlistedWords ⊆ words ∧
      q.names = ["Order \"x\"", "SELECT", "größe", "Order \"x\"", "SELECT"] ∧
      q.Understood words := by
  intro select size q
  have hwords : ∀ word ∈ words, IsGrammarWord word := by decide
  have hunlisted : unlistedWords ⊆ words := List.subset_append_right _ _
  have hnames : q.names = ["Order \"x\"", "SELECT", "größe", "Order \"x\"", "SELECT"] := by
    decide +kernel
  refine ⟨hwords, hunlisted, hnames, ((names_read_in_place hwords hunlisted).2.1 q).mpr ?_⟩
  rw [hnames]
  decide +kernel

/-- A table that is named like a keyword is written bare: what stands in the place of its name is no
name. -/
theorem unlisted_word_read_as_keyword :
    let q : Query := .count added.count
    q.sql = "SELECT COUNT(*) FROM Add".toList ∧ Place.name "Add" ∈ q.places ∧
      (Place.name "Add").piece = .lexeme (.word "Add".toList) ∧
      (Piece.lexeme (.word "Add".toList)).name? words = none ∧ ¬q.Understood words := by
  intro q
  have hplace : Place.name "Add" ∈ q.places := by decide +kernel
  have hpiece : (Place.name "Add").piece = .lexeme (.word "Add".toList) := by decide +kernel
  have hname : (Piece.lexeme (.word "Add".toList)).name? words = none := by decide +kernel
  refine ⟨by decide +kernel, hplace, hpiece, hname, fun hread => ?_⟩
  have hread : (Place.name "Add").piece.name? words = some "Add" :=
    q.understood_iff.mp hread _ hplace
  rw [hpiece, hname] at hread
  cases hread

end Places

end TypedQuery
