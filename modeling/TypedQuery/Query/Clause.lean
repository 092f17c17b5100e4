import TypedQuery.Error
import TypedQuery.Filter.Basic

/-!
# Clauses

A query is built clause by clause. Every clause may be given once, and only with columns of the
tables that the query ranges over; what breaks a rule is refused when it is given.
-/

set_option autoImplicit false

namespace TypedQuery

/-- The contents of a clause that is given now, unless it was given before. -/
def fillOnce {α : Type} (clause : Clause) (present : Option α) (value : α) :
    Except Error (Option α) :=
  match present with
  | some _ => .error (.clauseAlreadySet clause)
  | none => .ok (some value)

/-- Refuses columns of tables that are not in scope, naming the table of the first one. -/
def checkScope (clause : Clause) (scope : List TableId) (columns : List Column) :
    Except Error Unit :=
  match firstOutOfScope scope columns with
  | some c => .error (.tableNotInScope clause c.tableName)
  | none => .ok ()

/-- How many rows a query yields at most and how many it skips first. -/
structure Limit where
  count : Nat
  offset : Nat
  deriving DecidableEq, Repr

/-- A limit whose numbers the engine can take. -/
def Limit.ofNats (count offset : Nat) : Except Error Limit :=
  if greatestLimit < count then .error (.limitOutOfRange .limit count)
  else if greatestLimit < offset then .error (.limitOutOfRange .offset offset)
  else .ok ⟨count, offset⟩

/-- The filter in a clause with its parameters numbered from `first` on. -/
def numberClause (first : Nat) (clause : Option Filter) : Option Filter :=
  clause.map (Filter.number first)

/-- How many parameters the filters of a list have together. -/
def paramCount (filters : List Filter) : Nat := (filters.flatMap Filter.params).length

end TypedQuery
