import TypedQuery.Proofs.Query.OnlyFilter
import TypedQuery.Proofs.Query.SharedColumns
import TypedQuery.Proofs.Schema.Named

/-!
# The text of new values

An insertion and an update name their columns in a list and set a list of placeholders against it. The
two lists have the same length and go together by their places: the placeholder `?i` stands for the
new value of the `i`-th column, whatever characters the names are made of (`Table.Sets.pairsValues`).
-/

set_option autoImplicit false

namespace TypedQuery

open Sql

/-! ## Queries that set columns -/

/-- The queries that set the given columns of a table: an insertion, and updates with any clauses. -/
inductive Table.Sets (handle : Table) (columns : List Column) : Query → Prop where
  | insert : Sets handle columns (.insert ⟨handle, columns⟩)
  | update (filter : Option Filter) (orderBy : Option OrderBy) (limit : Option Limit) :
    Sets handle columns (.update ⟨handle, columns, filter, orderBy, limit⟩)

/-- The columns of a list with the numbers of their places, from 1 on. -/
def numberedNames (columns : List Column) : List (String × Nat) :=
  columns.mapIdx fun i c => (c.name, i + 1)

/-- The text of a query that sets columns pairs each of them with the placeholder of its place. An
insertion into no column has no placeholders and asks for the defaults; an update of no column has
two empty lists. -/
def Query.PairsValues (q : Query) (table : Table) (columns : List Column) : Prop :=
  match q with
  | .insert _ =>
    if columns = [] then
      q.sql = "INSERT INTO ".toList ++ identifier table.name ++ " DEFAULT VALUES".toList
    else
      ∃ lists, q.sql = "INSERT INTO ".toList ++ identifier table.name ++ " (".toList ++ lists ∧
        Reader.readPairs " VALUES (" lists = some (numberedNames columns, [])
  | .update _ =>
    if columns = [] then
      ∃ rest, q.sql = "UPDATE ".toList ++ identifier table.name ++ " SET () = ()".toList ++ rest
    else
      ∃ lists rest, q.sql = "UPDATE ".toList ++ identifier table.name ++ " SET (".toList ++ lists ∧
        Reader.readPairs " = (" lists = some (numberedNames columns, rest)
  | _ => False

section

variable {handle : Table} {columns : List Column} {q : Query}

/-- Columns of the handle may be set. -/
theorem Table.inScope_of_subset (h : columns ⊆ handle.columns) : InScope [handle.id] columns := by
  intro c hc
  rw [table_of_mem_columns (h hc)]
  exact List.mem_singleton_self _

theorem Table.insert_eq_ok (h : InScope [handle.id] columns) :
    handle.insert columns = .ok ⟨handle, columns⟩ := by
  unfold Table.insert
  exact bind_eq_ok.mpr ⟨(), checkScope_eq_ok.mpr h, rfl⟩

theorem zip_range'_eq_numberedNames (columns : List Column) :
    (columns.map Column.name).zip (List.range' 1 columns.length) = numberedNames columns := by
  apply List.ext_getElem
  · simp [numberedNames]
  · intro i hi hi'
    simp [numberedNames, Nat.add_comm]

/-- The lists of a query that sets columns, read back. -/
theorem readPairs_bareNames (between : String) (h : columns ≠ []) (rest : List Char) :
    Reader.readPairs between (bareNames columns ++ ')' :: (between.toList ++
      (placeholders columns.length ++ ')' :: rest))) = some (numberedNames columns, rest) := by
  rw [← zip_range'_eq_numberedNames, bareNames_eq]
  apply Reader.readPairs_separated
  · simpa using h
  · rw [List.length_map, List.length_range']

theorem Insert.sql_eq {q : Insert} (h : q.columns ≠ []) :
    q.sql = "INSERT INTO ".toList ++ identifier q.table.name ++ " (".toList ++
      (bareNames q.columns ++ ')' :: (" VALUES (".toList ++
        (placeholders q.columns.length ++ [')']))) := by
  have happend : ∀ head names w numbers : List Char,
      head ++ names ++ (')' :: w) ++ numbers ++ [')'] =
        head ++ (names ++ ')' :: (w ++ (numbers ++ [')']))) := by simp
  rw [Insert.sql, if_neg (by simpa using h)]
  exact happend _ _ " VALUES (".toList _

theorem Update.sql_eq (q : Update) :
    q.sql = "UPDATE ".toList ++ identifier q.table.name ++ " SET (".toList ++
      (bareNames q.columns ++ ')' :: (" = (".toList ++ (placeholders q.columns.length ++
        ')' :: (clauseSql " WHERE " (q.filter.map Filter.sql) ++
          trailingSql q.orderBy q.limit)))) := by
  have happend : ∀ head names w numbers rest : List Char,
      head ++ names ++ (')' :: w) ++ numbers ++ ')' :: rest =
        head ++ (names ++ ')' :: (w ++ (numbers ++ ')' :: rest))) := by simp
  exact happend _ _ " = (".toList _ _

/-- The placeholders of a numbered query are those of the new values and then those of its
conditions. -/
theorem Query.indices_sql_numbered (q : Query) :
    Sql.indices q.numbered.sql =
      List.range' 1 q.valueCount ++ q.numbered.params.map Param.index := by
  rw [q.shows_sql_numbered.indices_eq, q.map_index_params_numbered, Nat.add_comm q.valueCount 1,
    List.range'_append_1]

namespace Table.Sets

theorem eq_of_insert {q : Insert} (h : handle.Sets columns (.insert q)) : q = ⟨handle, columns⟩ := by
  cases h
  rfl

theorem eq_of_update {q : Update} (h : handle.Sets columns (.update q)) :
    q.table = handle ∧ q.columns = columns := by
  cases h
  exact ⟨rfl, rfl⟩

theorem valueCount (h : handle.Sets columns q) : q.valueCount = columns.length := by
  cases h <;> rfl

theorem numbered (h : handle.Sets columns q) : handle.Sets columns q.numbered := by
  cases h
  · exact .insert
  · exact .update _ _ _

/-- The text of the query pairs the columns with their placeholders. -/
theorem pairsValues (h : handle.Sets columns q) : q.PairsValues handle columns := by
  cases h with
  | insert =>
    dsimp only [Query.PairsValues]
    by_cases hnone : columns = []
    · rw [if_pos hnone, hnone]
      rfl
    · rw [if_neg hnone]
      exact ⟨_, Insert.sql_eq hnone, readPairs_bareNames " VALUES (" hnone []⟩
  | update filter orderBy limit =>
    dsimp only [Query.PairsValues]
    by_cases hnone : columns = []
    · subst hnone
      have happend : ∀ head rest : List Char,
          head ++ " SET (".toList ++ ([] ++ ')' :: (" = (".toList ++ ([] ++ ')' :: rest))) =
            head ++ " SET () = ()".toList ++ rest := by simp
      exact ⟨_, (Update.sql_eq _).trans (happend _ _)⟩
    · rw [if_neg hnone]
      exact ⟨_, _, Update.sql_eq _, readPairs_bareNames " = (" hnone _⟩

end Table.Sets

end

end TypedQuery
