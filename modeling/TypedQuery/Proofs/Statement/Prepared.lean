import TypedQuery.Statement.Prepared
import TypedQuery.Proofs.Outcome

/-!
# What a prepared statement holds

Statements of the five kinds hold the same things: the query they were made for, its filters and
what is bound. A query compiles exactly if the engine takes its text (`compileWith_eq_ok`), however
the engine prepares; `of_compileWith` says what it hands to its statement then. `bind_binds` and
`bind_eq` say what binding parameters asks of the engine and leaves behind.
-/

set_option autoImplicit false

namespace TypedQuery

namespace Query

/-- The filters of a query, in the order in which their placeholders are written. -/
def filters : Query → List Filter
  | .select q => q.filters
  | .insert _ => []
  | .update q => q.filter.toList
  | .delete q => q.filter.toList
  | .count q => q.filter.toList

/-- How many new values a query takes when it runs. -/
def valueCount : Query → Nat
  | .select _ => 0
  | .insert q => q.columns.length
  | .update q => q.columns.length
  | .delete _ => 0
  | .count _ => 0

/-- The parameters of a query are those of its filters. -/
theorem params_eq_flatMap_filters (q : Query) : q.params = q.filters.flatMap Filter.params := by
  cases q <;> rfl

/-- Numbering the parameters changes no number of values. -/
@[simp]
theorem valueCount_numbered (q : Query) : q.numbered.valueCount = q.valueCount := by
  cases q <;> rfl

end Query

namespace Prepared

/-- The query that the statement was made for. -/
def query : Prepared → Query
  | .select s => .select s.query
  | .insert s => .insert s.query
  | .update s => .update s.query
  | .delete s => .delete s.query
  | .count s => .count s.query

/-- The filters that the statement binds from, in their stored order. -/
def filters : Prepared → List Filter
  | .select s => s.filters
  | .insert s => s.filters
  | .update s => s.filters
  | .delete s => s.filters
  | .count s => s.filters

/-- What is bound to the parameters. -/
def bindings : Prepared → Engine.Bindings
  | .select s => s.bindings
  | .insert s => s.bindings
  | .update s => s.bindings
  | .delete s => s.bindings
  | .count s => s.bindings

/-- The parameters of the filters, in their stored order. -/
def params (s : Prepared) : List Param := s.filters.flatMap Filter.params

end Prepared

namespace Query

variable {refuses : Preparation} {q : Query} {s : Prepared}

/-- A query compiles exactly if the engine takes its numbered text. -/
theorem compileWith_eq_ok :
    q.compileWith refuses = .ok s ↔ refuses q.numbered = none ∧ q.numbered.statement = s := by
  unfold compileWith
  cases hrefusal : refuses q.numbered <;> simp [hrefusal]

/-- There is a statement for the query exactly if the engine takes its numbered text. -/
theorem exists_compileWith_iff :
    (∃ s, q.compileWith refuses = .ok s) ↔ refuses q.numbered = none := by
  simp [compileWith_eq_ok]

/-- A query that does not compile is refused with its text and the fault of the engine. -/
theorem compileWith_eq_error {e : Error} :
    q.compileWith refuses = .error e ↔
      ∃ fault, refuses q.numbered = some fault ∧
        e = .prepare (String.ofList q.numbered.sql) fault := by
  unfold compileWith
  cases hrefusal : refuses q.numbered <;> simp [hrefusal, eq_comm (b := e)]

/-- The query, the filters and the text of its statement; nothing is bound. -/
theorem statement_spec (q : Query) :
    q.statement.query = q ∧ q.statement.filters = q.filters ∧ q.statement.bindings = .none ∧
      q.statement.sql = String.ofList q.sql := by
  cases q <;> exact ⟨rfl, rfl, rfl, rfl⟩

/-- A query that compiles hands itself, numbered, its filters and its text to the statement, where
nothing is bound yet. -/
theorem of_compileWith (h : q.compileWith refuses = .ok s) :
    s.query = q.numbered ∧ s.filters = q.numbered.filters ∧ s.bindings = .none ∧
      s.sql = String.ofList q.numbered.sql := by
  obtain ⟨-, rfl⟩ := compileWith_eq_ok.mp h
  exact q.numbered.statement_spec

end Query

/-- All parameters are selected. -/
theorem BindSelection.filter_all (params : List Param) :
    params.filter BindSelection.all.includes = params := by
  simp [BindSelection.includes, BindSelection.all]

namespace Prepared

/-- What binding the selected parameters asks of the engine. -/
theorem bind_binds (s : Prepared) (slots : Slots) (which : BindSelection) :
    (s.bind slots which).2.binds =
      (s.params.filter which.includes).map fun p => (p.index, p.source.bind slots) := by
  cases s <;> rfl

/-- The statement with values bound. -/
def withBinds (binds : List (Nat × Primitive)) : Prepared → Prepared
  | .select s => .select (s.withBinds binds)
  | .insert s => .insert (s.withBinds binds)
  | .update s => .update (s.withBinds binds)
  | .delete s => .delete (s.withBinds binds)
  | .count s => .count (s.withBinds binds)

@[simp]
theorem query_withBinds (s : Prepared) (binds : List (Nat × Primitive)) :
    (s.withBinds binds).query = s.query := by
  cases s <;> rfl

@[simp]
theorem filters_withBinds (s : Prepared) (binds : List (Nat × Primitive)) :
    (s.withBinds binds).filters = s.filters := by
  cases s <;> rfl

@[simp]
theorem bindings_withBinds (s : Prepared) (binds : List (Nat × Primitive)) :
    (s.withBinds binds).bindings = bindAll s.bindings binds := by
  cases s <;> rfl

theorem withBinds_nil (s : Prepared) : s.withBinds [] = s := by
  cases s <;> rfl

/-- Binding the selected parameters changes a statement by what is asked of the engine. -/
theorem bind_eq (s : Prepared) (slots : Slots) (which : BindSelection) :
    (s.bind slots which).1 = s.withBinds (s.bind slots which).2.binds := by
  cases s <;> rfl

end Prepared

end TypedQuery
