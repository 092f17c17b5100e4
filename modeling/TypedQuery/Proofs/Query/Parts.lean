import Mathlib.Tactic.Common
import TypedQuery.Query.Select

/-!
# What a selection is made of

A chain of joins is a first table and a list of joins, a selection the list of its parts, from the
first one through all set operators. Properties of built queries and the shape of their text are
stated over these lists, so that the `k`th join and the parts after the first one can be spoken of.
-/

set_option autoImplicit false

namespace TypedQuery

/-! ## Chains of joins -/

/-- One join of a chain: how it goes on, with which table, and under which constraint. -/
structure JoinStep where
  kind : JoinKind
  right : Table
  constraint : Option JoinConstraint

namespace Relation

/-- The table that a chain begins with. -/
def first : Relation → Table
  | .table t => t
  | .join left _ _ _ => left.first

/-- The joins of a chain, the leftmost first. -/
def steps : Relation → List JoinStep
  | .table _ => []
  | .join left kind right constraint => left.steps ++ [⟨kind, right, constraint⟩]

@[simp]
theorem steps_table (t : Table) : (Relation.table t).steps = [] := rfl

@[simp]
theorem steps_join (left : Relation) (kind : JoinKind) (right : Table)
    (constraint : Option JoinConstraint) :
    (Relation.join left kind right constraint).steps =
      left.steps ++ [⟨kind, right, constraint⟩] := rfl

/-- The tables of a chain are its first one and those that its joins add. -/
theorem tables_eq (r : Relation) : r.tables = r.first.id :: r.steps.map fun step => step.right.id := by
  induction r with
  | table t => rfl
  | join left kind right constraint ih => simp [tables, first, ih]

/-- A chain has one table more than joins. -/
theorem length_tables (r : Relation) : r.tables.length = r.steps.length + 1 := by
  rw [tables_eq, List.length_cons, List.length_map]

/-- The last table of a chain is the one at its right end. -/
theorem tables_last (r : Relation) : r.tables[r.steps.length]? = some r.rightmost.id := by
  cases r with
  | table t => rfl
  | join left kind right constraint =>
    have hlength :
        (Relation.join left kind right constraint).steps.length = left.tables.length := by
      rw [steps_join, List.length_append, length_tables]
      rfl
    rw [hlength, tables, List.getElem?_concat_length]
    rfl

/-- Numbering the parameters changes no table. -/
@[simp]
theorem tables_number (first : Nat) (r : Relation) : (r.number first).tables = r.tables := by
  induction r with
  | table t => rfl
  | join left kind right constraint ih => simp [number, tables, ih]

@[simp]
theorem length_steps_number (first : Nat) (r : Relation) :
    (r.number first).steps.length = r.steps.length := by
  have hlength := congrArg List.length (r.tables_number first)
  simpa only [length_tables, Nat.add_right_cancel_iff] using hlength

end Relation

/-- Numbering the parameters of a filter changes none of its columns. -/
@[simp]
theorem Filter.columnList_number (first : Nat) (f : Filter) :
    (f.number first).columnList = f.columnList := by
  induction f generalizing first with
  | compare op expr value valueFirst => cases value <;> rfl
  | columns op left right => rfl
  | like column pattern => rfl
  | logical op left right ihleft ihright => simp [number, columnList, ihleft, ihright]

/-! ## Parts of selections -/

namespace Select

/-- The parts of a selection, the first one first. -/
def parts : Select → List SelectPart
  | .simple part => [part]
  | .compound part _ other => part :: other.parts

/-- The parts begin with the one whose clauses are open. -/
theorem parts_eq (q : Select) : q.parts = q.part :: q.parts.tail := by
  cases q <;> rfl

@[simp]
theorem parts_ne_nil (q : Select) : q.parts ≠ [] := by
  cases q <;> nofun

/-- Changing the first part leaves the others as they are. -/
@[simp]
theorem parts_withPart (q : Select) (p : SelectPart) : (q.withPart p).parts = p :: q.parts.tail := by
  cases q <;> rfl

/-- A part of a numbered selection is a numbered part of the selection. -/
theorem exists_of_mem_parts_number {q : Select} {first : Nat} {p : SelectPart}
    (hp : p ∈ (q.number first).parts) : ∃ p' ∈ q.parts, ∃ n, p = p'.number n := by
  induction q generalizing first with
  | simple part =>
    obtain rfl := List.mem_singleton.mp hp
    exact ⟨part, List.mem_singleton_self part, first, rfl⟩
  | compound part op other ih =>
    rcases List.mem_cons.mp hp with rfl | hp
    · exact ⟨part, List.mem_cons_self, first, rfl⟩
    · obtain ⟨p', hp', hn⟩ := ih hp
      exact ⟨p', List.mem_cons_of_mem _ hp', hn⟩

/-- The same for the parts after the first one. -/
theorem exists_of_mem_tail_parts_number {q : Select} {first : Nat} {p : SelectPart}
    (hp : p ∈ (q.number first).parts.tail) : ∃ p' ∈ q.parts.tail, ∃ n, p = p'.number n := by
  cases q with
  | simple part => simp [number, parts] at hp
  | compound part op other => exact exists_of_mem_parts_number hp

end Select

end TypedQuery
