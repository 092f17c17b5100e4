import TypedQuery.Proofs.Filter.OtherNumbers
import TypedQuery.Proofs.Query.Renumbering

/-!
# A filter as the only clause

A selection, a count, a deletion and an update of one table take the same filter in the same way: the
text of the query goes on with ` WHERE ` and the text of the filter, and what is bound for the query is
what is bound for the filter. Only an update numbers the filter behind its new values.
-/

set_option autoImplicit false

namespace TypedQuery

open Sql

/-- The queries over a table that take a filter, before they have any clause. -/
inductive Table.Bare (handle : Table) : Query → Prop where
  | select {columns : List ResultColumn} {q : Select} (h : handle.select columns = .ok q) :
    Bare handle (.select q)
  | count : Bare handle (.count handle.count)
  | delete : Bare handle (.delete handle.delete)
  | update {columns : List Column} {q : Update} (h : handle.update columns = .ok q) :
    Bare handle (.update q)

namespace Table

variable {handle : Table} {bare : Query}

/-- The selection of some columns without any clause. -/
def selectionOf (handle : Table) (columns : List ResultColumn) : Select :=
  .simple ⟨.table handle, columns, none, none, none, none, none⟩

/-- The update of some columns without any clause. -/
def updateOf (handle : Table) (columns : List Column) : Update := ⟨handle, columns, none, none, none⟩

theorem select_eq_ok {columns : List ResultColumn} {q : Select} :
    handle.select columns = .ok q ↔
      InScope [handle.id] (columns.map fun c => c.expr.base) ∧ q = handle.selectionOf columns :=
  Select.ofRelation_eq_ok

theorem update_eq_ok {columns : List Column} {q : Update} :
    handle.update columns = .ok q ↔ InScope [handle.id] columns ∧ q = handle.updateOf columns := by
  unfold Table.update
  simp only [bind_eq_ok, checkScope_eq_ok, pure_eq_ok, exists_const]
  exact and_congr_right fun _ => eq_comm

/-- What a bare query is. -/
theorem Bare.cases (h : handle.Bare bare) :
    (∃ columns, bare = .select (handle.selectionOf columns)) ∨ bare = .count handle.count ∨
      bare = .delete handle.delete ∨ ∃ columns, bare = .update (handle.updateOf columns) := by
  cases h with
  | select h => exact .inl ⟨_, congrArg _ (select_eq_ok.mp h).2⟩
  | count => exact .inr (.inl rfl)
  | delete => exact .inr (.inr (.inl rfl))
  | update h => exact .inr (.inr (.inr ⟨_, congrArg _ (update_eq_ok.mp h).2⟩))

/-- A bare query takes every filter over its table. -/
theorem Bare.applyCall_filter (h : handle.Bare bare) {f : Filter}
    (hf : InScope [handle.id] f.columnList) :
    bare.applyCall (.filter f) = some (.ok (bare.put (.filter f))) := by
  refine (Query.applyCall_eq_ok rfl).mpr ⟨?_, ?_, nofun, rfl⟩
  · obtain ⟨columns, rfl⟩ | rfl | rfl | ⟨columns, rfl⟩ := h.cases <;> exact hf
  · obtain ⟨columns, rfl⟩ | rfl | rfl | ⟨columns, rfl⟩ := h.cases <;> rfl

/-- The text goes on with the condition. -/
theorem Bare.sql_put_filter (h : handle.Bare bare) (f : Filter) :
    (bare.put (.filter f)).numbered.sql =
      bare.numbered.sql ++ " WHERE ".toList ++ (f.number (1 + bare.valueCount)).sql := by
  obtain ⟨columns, rfl⟩ | rfl | rfl | ⟨columns, rfl⟩ := h.cases
  · have happend : ∀ head w g : List Char, (head ++ (w ++ g) ++ [] ++ []) ++ ([] ++ []) =
        ((head ++ [] ++ [] ++ []) ++ ([] ++ [])) ++ w ++ g := by simp
    exact happend _ " WHERE ".toList _
  · have happend : ∀ head w g : List Char, head ++ (w ++ g) = (head ++ []) ++ w ++ g := by simp
    exact happend _ " WHERE ".toList _
  · have happend : ∀ head w g : List Char, head ++ (w ++ g) ++ ([] ++ []) =
        (head ++ [] ++ ([] ++ [])) ++ w ++ g := by simp
    exact happend _ " WHERE ".toList _
  · have happend : ∀ head w g : List Char, head ++ ')' :: (w ++ g ++ ([] ++ [])) =
        (head ++ ')' :: ([] ++ ([] ++ []))) ++ w ++ g := by simp
    exact happend _ " WHERE ".toList _

/-- The only filter of the query is numbered behind the new values. -/
theorem Bare.filters_put_filter (h : handle.Bare bare) (f : Filter) :
    (bare.put (.filter f)).numbered.filters = [f.number (1 + bare.valueCount)] := by
  obtain ⟨columns, rfl⟩ | rfl | rfl | ⟨columns, rfl⟩ := h.cases <;> rfl

theorem Bare.valueCount_put_filter (h : handle.Bare bare) (f : Filter) :
    (bare.put (.filter f)).valueCount = bare.valueCount := by
  obtain ⟨columns, rfl⟩ | rfl | rfl | ⟨columns, rfl⟩ := h.cases <;> rfl

end Table

end TypedQuery
