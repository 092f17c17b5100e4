import TypedQuery.Query.Call
import TypedQuery.Statement.Changing
import TypedQuery.Statement.Selecting

/-!
# Statements of any kind

A prepared query of any kind, to be bound and run.
-/

set_option autoImplicit false

namespace TypedQuery

/-- A statement for a query of any kind. -/
inductive Prepared where
  | select (s : Statement Select)
  | insert (s : Statement Insert)
  | update (s : Statement Update)
  | delete (s : Statement Delete)
  | count (s : Statement Count)

/-- How an engine prepares: the fault with which it refuses the text of a numbered query, if it
does. -/
abbrev Preparation : Type := Query → Option Engine.Fault

namespace Query

/-- The refusals of a text for its shape. -/
def refusal? : Preparation
  | .select q => Engine.selectRefusal? q
  | .insert _ => none
  | .update q => Engine.updateRefusal? q
  | .delete q => Engine.deleteRefusal? q
  | .count _ => none

/-- The statement of a numbered query whose text the engine takes. -/
def statement : Query → Prepared
  | .select q => .select (.prepared q q.sql q.filters)
  | .insert q => .insert (.prepared q q.sql [])
  | .update q => .update (.prepared q q.sql q.filter.toList)
  | .delete q => .delete (.prepared q q.sql q.filter.toList)
  | .count q => .count (.prepared q q.sql q.filter.toList)

/-- A statement for the query, its parameters numbered, from an engine that prepares like this. -/
def compileWith (refuses : Preparation) (q : Query) : Except Error Prepared :=
  let q := q.numbered
  match refuses q with
  | some fault => .error (.prepare (String.ofList q.sql) fault)
  | none => .ok q.statement

/-- A statement for the query. -/
def compile (q : Query) : Except Error Prepared := q.compileWith refusal?

end Query

/-- What a run of a statement that yields no rows comes to. -/
inductive Outcome where
  | inserted (id : Int64)
  | changed (rows : Nat)
  | counted (rows : Nat)
  deriving DecidableEq, Repr

namespace Prepared

/-- The text of the statement. -/
def sql : Prepared → String
  | .select s => s.sql
  | .insert s => s.sql
  | .update s => s.sql
  | .delete s => s.sql
  | .count s => s.sql

/-- Binds the selected parameters; slots are looked up now. -/
def bind (slots : Slots) (which : BindSelection) : Prepared → Prepared × Trace
  | .select s => let (s, trace) := s.bind slots which; (.select s, trace)
  | .insert s => let (s, trace) := s.bind slots which; (.insert s, trace)
  | .update s => let (s, trace) := s.bind slots which; (.update s, trace)
  | .delete s => let (s, trace) := s.bind slots which; (.delete s, trace)
  | .count s => let (s, trace) := s.bind slots which; (.count s, trace)

/-- One run of a statement that yields no rows: what it comes to, and the store and the statement
after it. The values are those of an insertion or an update. -/
def execute? (store : Engine.Store) (values : List Argument) :
    Prepared → Option (Except Error Outcome × Engine.Store × Prepared × Trace)
  | .select _ => none
  | .insert s =>
    match s.insert store values with
    | (.ok (store, id), s, trace) => some (.ok (.inserted id), store, .insert s, trace)
    | (.error error, s, trace) => some (.error error, store, .insert s, trace)
  | .update s =>
    match s.update store values with
    | (.ok (store, rows), s, trace) => some (.ok (.changed rows), store, .update s, trace)
    | (.error error, s, trace) => some (.error error, store, .update s, trace)
  | .delete s =>
    match s.delete store with
    | (.ok (store, rows), trace) => some (.ok (.changed rows), store, .delete s, trace)
    | (.error error, trace) => some (.error error, store, .delete s, trace)
  | .count s =>
    let (result, trace) := s.count store
    some (result.map .counted, store, .count s, trace)

end Prepared

end TypedQuery
