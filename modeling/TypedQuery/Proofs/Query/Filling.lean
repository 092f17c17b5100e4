import TypedQuery.Proofs.Query.Built

/-!
# Filling clauses

Every call but the numbering gives one clause. Whether it is accepted depends on the tables of the
query, on that clause being open, and for a condition on groups on there being groups; on nothing
else that was given before. An accepted call fills its clause, so that calls for different clauses
do not meet: each leaves the scope and the other clauses as they are, and their effects commute.
-/

set_option autoImplicit false

namespace TypedQuery

namespace Call

/-- The clause that a call gives. -/
def clause? : Call → Option Clause
  | .filter _ => some .filter
  | .groupBy _ => some .groupBy
  | .having _ => some .having
  | .orderBy _ => some .orderBy
  | .limit .. => some .limit
  | .union .. => some .union
  | .number => none

/-- What the arguments of a call have to meet over the tables in scope. -/
def Fits (scope : List TableId) : Call → Prop
  | .filter f => InScope scope f.columnList
  | .groupBy columns => InScope scope columns
  | .having f => InScope scope f.columnList
  | .orderBy order => InScope scope order.columnList
  | .limit count offset => count ≤ greatestLimit ∧ offset ≤ greatestLimit
  | .union _ other => other.part.orderBy = none ∧ other.part.limit = none
  | .number => True

end Call

namespace Query

/-- The tables that clauses may speak of. -/
def scope : Query → List TableId
  | .select q => q.tables
  | .insert q => [q.table.id]
  | .update q => [q.table.id]
  | .delete q => [q.table.id]
  | .count q => [q.table.id]

/-- Queries of this kind have the clause, and it was not given yet. -/
def Lacks : Query → Clause → Prop
  | .select q, .filter => q.part.filter = none
  | .select q, .groupBy => q.part.groupBy = none
  | .select q, .having => q.part.having = none
  | .select q, .orderBy => q.part.orderBy = none
  | .select q, .limit => q.part.limit = none
  | .select q, .union => q.parts.tail = []
  | .update q, .filter => q.filter = none
  | .update q, .orderBy => q.orderBy = none
  | .update q, .limit => q.limit = none
  | .delete q, .filter => q.filter = none
  | .delete q, .orderBy => q.orderBy = none
  | .delete q, .limit => q.limit = none
  | .count q, .filter => q.filter = none
  | _, _ => False

/-- The query makes groups of its rows. -/
def Grouped : Query → Prop
  | .select q => q.part.groupBy ≠ none
  | _ => False

end Query

/-- The selection with the clause of a call. -/
def Select.put (q : Select) : Call → Select
  | .filter f => q.withPart { q.part with filter := some f }
  | .groupBy columns => q.withPart { q.part with groupBy := some columns }
  | .having f => q.withPart { q.part with having := some f }
  | .orderBy order => q.withPart { q.part with orderBy := some order }
  | .limit count offset => q.withPart { q.part with limit := some ⟨count, offset⟩ }
  | .union op other => .compound q.part op other
  | .number => q

namespace Query

/-- The query with the clause of a call. -/
def put : Query → Call → Query
  | .select q, c => .select (q.put c)
  | .update q, .filter f => .update { q with filter := some f }
  | .update q, .orderBy order => .update { q with orderBy := some order }
  | .update q, .limit rows offset => .update { q with limit := some ⟨rows, offset⟩ }
  | .delete q, .filter f => .delete { q with filter := some f }
  | .delete q, .orderBy order => .delete { q with orderBy := some order }
  | .delete q, .limit rows offset => .delete { q with limit := some ⟨rows, offset⟩ }
  | .count q, .filter f => .count { q with filter := some f }
  | q, _ => q

end Query

/-! ## What an accepted call does -/

/-- A call for a clause to a selection. -/
theorem Select.applyCall_eq_ok {q q' : Select} {c : Call} {k : Clause} (hc : c.clause? = some k) :
    q.applyCall c = .ok q' ↔
      c.Fits q.tables ∧ (Query.select q).Lacks k ∧ (k = .having → (Query.select q).Grouped) ∧
        q' = q.put c := by
  cases c with
  | filter f =>
    obtain rfl := Option.some.inj hc
    simp only [applyCall, filter_eq_ok, Call.Fits, Query.Lacks, put, reduceCtorEq, false_imp_iff,
      true_and]
  | groupBy columns =>
    obtain rfl := Option.some.inj hc
    simp only [applyCall, groupBy_eq_ok, Call.Fits, Query.Lacks, put, reduceCtorEq, false_imp_iff,
      true_and]
  | having f =>
    obtain rfl := Option.some.inj hc
    simp only [applyCall, having_eq_ok, Call.Fits, Query.Lacks, Query.Grouped, put, forall_const,
      Option.isSome_iff_ne_none]
    tauto
  | orderBy order =>
    obtain rfl := Option.some.inj hc
    simp only [applyCall, orderBy_eq_ok, Call.Fits, Query.Lacks, put, reduceCtorEq, false_imp_iff,
      true_and]
  | limit count offset =>
    obtain rfl := Option.some.inj hc
    simp only [applyCall, limitOffset_eq_ok, Call.Fits, Query.Lacks, put, reduceCtorEq,
      false_imp_iff, true_and, and_assoc]
  | union op other =>
    obtain rfl := Option.some.inj hc
    simp only [applyCall, unions_eq_ok, Call.Fits, Query.Lacks, put, reduceCtorEq, false_imp_iff,
      true_and, and_assoc]
    cases q with
    | simple part => simp [parts, Select.part]
    | compound part op' other' => simp [parts]
  | number => cases hc

/-! ## Queries over a single table -/

theorem map_fillFilter_eq_ok {α : Type} {t : Table} {present : Option Filter} {f : Filter}
    {make : Option Filter → α} {a : α} :
    make <$> fillFilter t present f = .ok a ↔
      InScope [t.id] f.columnList ∧ present = none ∧ a = make (some f) := by
  refine map_eq_ok.trans ?_
  simp only [fillFilter_eq_ok]
  constructor
  · rintro ⟨_, ⟨hscope, hnone, rfl⟩, rfl⟩
    exact ⟨hscope, hnone, rfl⟩
  · rintro ⟨hscope, hnone, rfl⟩
    exact ⟨_, ⟨hscope, hnone, rfl⟩, rfl⟩

theorem map_fillOrderBy_eq_ok {α : Type} {t : Table} {present : Option OrderBy} {order : OrderBy}
    {make : Option OrderBy → α} {a : α} :
    make <$> fillOrderBy t present order = .ok a ↔
      InScope [t.id] order.columnList ∧ present = none ∧ a = make (some order) := by
  refine map_eq_ok.trans ?_
  simp only [fillOrderBy_eq_ok]
  constructor
  · rintro ⟨_, ⟨hscope, hnone, rfl⟩, rfl⟩
    exact ⟨hscope, hnone, rfl⟩
  · rintro ⟨hscope, hnone, rfl⟩
    exact ⟨_, ⟨hscope, hnone, rfl⟩, rfl⟩

theorem map_fillLimit_eq_ok {α : Type} {present : Option Limit} {count offset : Nat}
    {make : Option Limit → α} {a : α} :
    make <$> fillLimit present count offset = .ok a ↔
      (count ≤ greatestLimit ∧ offset ≤ greatestLimit) ∧ present = none ∧
        a = make (some ⟨count, offset⟩) := by
  refine map_eq_ok.trans ?_
  simp only [fillLimit_eq_ok]
  constructor
  · rintro ⟨_, ⟨hcount, hoffset, hnone, rfl⟩, rfl⟩
    exact ⟨⟨hcount, hoffset⟩, hnone, rfl⟩
  · rintro ⟨⟨hcount, hoffset⟩, hnone, rfl⟩
    exact ⟨_, ⟨hcount, hoffset, hnone, rfl⟩, rfl⟩

/-- A call that one kind of query answers, in the terms of queries of any kind. -/
theorem exists_ok_iff {κ : Type} {call : Except Error κ} {wrap : κ → Query} {filled : κ}
    {fits lacks : Prop} (h : ∀ r, call = .ok r ↔ fits ∧ lacks ∧ r = filled) {q' : Query} :
    (∃ r, some call = some (Except.ok r) ∧ q' = wrap r) ↔ fits ∧ lacks ∧ q' = wrap filled := by
  simp only [Option.some.injEq, h]
  constructor
  · rintro ⟨_, ⟨hfits, hlacks, rfl⟩, rfl⟩
    exact ⟨hfits, hlacks, rfl⟩
  · rintro ⟨hfits, hlacks, rfl⟩
    exact ⟨_, ⟨hfits, hlacks, rfl⟩, rfl⟩

/-- A call for a clause to an update. -/
theorem Update.applyCall_eq_ok {q : Update} {q' : Query} {c : Call} {k : Clause}
    (hc : c.clause? = some k) :
    (Query.update q).applyCall c = some (.ok q') ↔
      c.Fits [q.table.id] ∧ (Query.update q).Lacks k ∧ q' = (Query.update q).put c := by
  rw [Query.applyCall_update_eq_ok]
  cases c with
  | filter f =>
    obtain rfl := Option.some.inj hc
    exact exists_ok_iff fun r => map_fillFilter_eq_ok
  | orderBy order =>
    obtain rfl := Option.some.inj hc
    exact exists_ok_iff fun r => map_fillOrderBy_eq_ok
  | limit count offset =>
    obtain rfl := Option.some.inj hc
    exact exists_ok_iff fun r => map_fillLimit_eq_ok
  | groupBy columns => simp [applyCall, Query.Lacks, ← Option.some.inj hc]
  | having f => simp [applyCall, Query.Lacks, ← Option.some.inj hc]
  | union op other => simp [applyCall, Query.Lacks, ← Option.some.inj hc]
  | number => cases hc

/-- A call for a clause to a deletion. -/
theorem Delete.applyCall_eq_ok {q : Delete} {q' : Query} {c : Call} {k : Clause}
    (hc : c.clause? = some k) :
    (Query.delete q).applyCall c = some (.ok q') ↔
      c.Fits [q.table.id] ∧ (Query.delete q).Lacks k ∧ q' = (Query.delete q).put c := by
  rw [Query.applyCall_delete_eq_ok]
  cases c with
  | filter f =>
    obtain rfl := Option.some.inj hc
    exact exists_ok_iff fun r => map_fillFilter_eq_ok
  | orderBy order =>
    obtain rfl := Option.some.inj hc
    exact exists_ok_iff fun r => map_fillOrderBy_eq_ok
  | limit count offset =>
    obtain rfl := Option.some.inj hc
    exact exists_ok_iff fun r => map_fillLimit_eq_ok
  | groupBy columns => simp [applyCall, Query.Lacks, ← Option.some.inj hc]
  | having f => simp [applyCall, Query.Lacks, ← Option.some.inj hc]
  | union op other => simp [applyCall, Query.Lacks, ← Option.some.inj hc]
  | number => cases hc

/-- A call for a clause to a count. -/
theorem Count.applyCall_eq_ok {q : Count} {q' : Query} {c : Call} {k : Clause}
    (hc : c.clause? = some k) :
    (Query.count q).applyCall c = some (.ok q') ↔
      c.Fits [q.table.id] ∧ (Query.count q).Lacks k ∧ q' = (Query.count q).put c := by
  rw [Query.applyCall_count_eq_ok]
  cases c with
  | filter f =>
    obtain rfl := Option.some.inj hc
    exact exists_ok_iff fun r => map_fillFilter_eq_ok
  | groupBy columns => simp [applyCall, Query.Lacks, ← Option.some.inj hc]
  | having f => simp [applyCall, Query.Lacks, ← Option.some.inj hc]
  | orderBy order => simp [applyCall, Query.Lacks, ← Option.some.inj hc]
  | limit count offset => simp [applyCall, Query.Lacks, ← Option.some.inj hc]
  | union op other => simp [applyCall, Query.Lacks, ← Option.some.inj hc]
  | number => cases hc

/-! ## Queries of any kind -/

namespace Query

/-- Only a selection has groups, or lacks a condition on them. -/
theorem not_lacks_having {q : Query} (h : ∀ s, q ≠ .select s) : ¬q.Lacks .having := by
  cases q with
  | select s => exact absurd rfl (h s)
  | _ => exact id

/-- A call for a clause is accepted exactly if its arguments fit the tables of the query, the clause
is open and a condition on groups meets groups; it fills the clause. -/
theorem applyCall_eq_ok {q q' : Query} {c : Call} {k : Clause} (hc : c.clause? = some k) :
    q.applyCall c = some (.ok q') ↔
      c.Fits q.scope ∧ q.Lacks k ∧ (k = .having → q.Grouped) ∧ q' = q.put c := by
  -- Where there are no groups, no condition on them is open either.
  have hhaving : (∀ s, q ≠ .select s) → q.Lacks k → (k = .having → q.Grouped) := by
    rintro hkind hlacks rfl
    exact absurd hlacks (not_lacks_having hkind)
  cases q with
  | select q =>
    rw [applyCall_select_eq_ok]
    simp only [Select.applyCall_eq_ok hc]
    constructor
    · rintro ⟨_, ⟨hfits, hlacks, hgrouped, rfl⟩, rfl⟩
      exact ⟨hfits, hlacks, hgrouped, rfl⟩
    · rintro ⟨hfits, hlacks, hgrouped, rfl⟩
      exact ⟨_, ⟨hfits, hlacks, hgrouped, rfl⟩, rfl⟩
  | insert q => simp [applyCall, Lacks]
  | update q =>
    rw [Update.applyCall_eq_ok hc]
    have := hhaving (by simp)
    tauto
  | delete q =>
    rw [Delete.applyCall_eq_ok hc]
    have := hhaving (by simp)
    tauto
  | count q =>
    rw [Count.applyCall_eq_ok hc]
    have := hhaving (by simp)
    tauto

/-- A condition on groups is refused where there are none, before anything else is looked at. -/
theorem applyCall_having_of_not_grouped {s : Select} (h : ¬(select s).Grouped) (f : Filter) :
    (select s).applyCall (.having f) = some (.error .havingWithoutGroupBy) := by
  have hnone : s.part.groupBy.isNone = true := by simpa [Grouped] using h
  simp [applyCall, Select.applyCall, Select.having, hnone, bind, Except.bind, Except.map]

/-! ## Calls for different clauses -/

@[simp]
theorem scope_put (q : Query) (c : Call) : (q.put c).scope = q.scope := by
  cases q with
  | select q => cases q <;> cases c <;> rfl
  | _ => cases c <;> rfl

/-- A call leaves every clause but its own as it is. -/
theorem lacks_put {q : Query} {c : Call} {k : Clause} (hne : c.clause? ≠ some k) :
    (q.put c).Lacks k ↔ q.Lacks k := by
  cases q with
  | select q => cases q <;> cases c <;> cases k <;> first | rfl | exact absurd rfl hne
  | _ => cases c <;> cases k <;> first | rfl | exact absurd rfl hne

/-- A clause that a call gave is no longer open. -/
theorem not_lacks_put {q : Query} {c : Call} {k : Clause} (hc : c.clause? = some k)
    (hlacks : q.Lacks k) : ¬(q.put c).Lacks k := by
  cases q with
  | select q =>
    cases c with
    | union op other =>
      cases hc
      exact other.parts_ne_nil
    | number => cases hc
    | _ =>
      cases hc
      cases q <;> nofun
  | insert q => exact hlacks.elim
  | _ => cases c <;> cases hc <;> first | exact hlacks.elim | nofun

/-- An accepted call leaves the groups as they are, or makes them. -/
theorem grouped_put {q : Query} {c : Call} {k : Clause} (hc : c.clause? = some k)
    (hlacks : q.Lacks k) : (q.put c).Grouped ↔ q.Grouped ∨ k = .groupBy := by
  cases q with
  | select q =>
    cases q <;> cases c <;> cases hc <;> simp [put, Select.put, Grouped, Select.withPart, Select.part]
  | insert q => exact hlacks.elim
  | _ => cases c <;> cases hc <;> first | exact hlacks.elim | simp [put, Grouped]

/-- The effects of calls for different clauses commute. -/
theorem put_put {q : Query} {c c' : Call} (hne : c.clause? ≠ c'.clause?) :
    (q.put c).put c' = (q.put c').put c := by
  cases q with
  | select q => cases q <;> cases c <;> cases c' <;> first | rfl | exact absurd rfl hne
  | _ => cases c <;> cases c' <;> first | rfl | exact absurd rfl hne

end Query

end TypedQuery
