import TypedQuery.Proofs.Query.Filling

/-!
# Mentions of columns

Columns reach a query in few ways: it is opened with them, a join is constrained by them, or a call
brings them to it. Each way has its own check of the tables that they come from, with its own view of
which tables are in scope. A mention is any of these ways; all of them take columns of tables in
scope only (`Mention.inScope_of_ok`), and none refuses columns of tables in scope for their table
(`Mention.staysInScope`).
-/

set_option autoImplicit false

namespace TypedQuery

/-- The tables of a relation, from left to right. -/
def Relation.handles (r : Relation) : List Table := r.first :: r.steps.map JoinStep.right

/-- The handles of a relation are those of its tables. -/
theorem Relation.map_id_handles (r : Relation) : r.handles.map Table.id = r.tables := by
  rw [r.tables_eq, handles, List.map_cons, List.map_map]
  rfl

/-- The tables that a query ranges over. -/
def Query.handles : Query → List Table
  | .select q => q.part.relation.handles
  | .insert q => [q.table]
  | .update q => [q.table]
  | .delete q => [q.table]
  | .count q => [q.table]

/-- The handles of a query are those of its scope. -/
theorem Query.map_id_handles (q : Query) : q.handles.map Table.id = q.scope := by
  cases q with
  | select q => exact q.part.relation.map_id_handles
  | _ => rfl

/-- The columns that a call gives to a query. -/
def Call.columns : Call → List Column
  | .filter f => f.columnList
  | .groupBy columns => columns
  | .having f => f.columnList
  | .orderBy order => order.columnList
  | .limit .. | .union .. | .number => []

/-- A place where columns are given: a query is opened with them, a join is constrained by them, or
a call brings them to a query. -/
inductive Mention where
  | select (r : Relation) (columns : List ResultColumn)
  | insert (t : Table) (columns : List Column)
  | update (t : Table) (columns : List Column)
  | condition (j : Join) (f : Filter)
  | shared (j : Join) (columns : List Column)
  | call (q : Query) (c : Call)

namespace Mention

def handles : Mention → List Table
  | .select r _ => r.handles
  | .insert t _ => [t]
  | .update t _ => [t]
  | .condition j _ => j.toRelation.handles
  | .shared j _ => j.toRelation.handles
  | .call q _ => q.handles

def columns : Mention → List Column
  | .select _ columns => columns.map fun c => c.expr.base
  | .insert _ columns => columns
  | .update _ columns => columns
  | .condition _ f => f.columnList
  | .shared _ columns => columns
  | .call _ c => c.columns

/-- Whether the columns are taken, or why they are not; nothing if there is no such call. -/
def outcome : Mention → Option (Except Error Unit)
  | .select r columns => some ((Select.ofRelation r columns).map fun _ => ())
  | .insert t columns => some ((t.insert columns).map fun _ => ())
  | .update t columns => some ((t.update columns).map fun _ => ())
  | .condition j f => some ((j.constrain f).map fun _ => ())
  | .shared j columns => some ((j.share columns).map fun _ => ())
  | .call q c => (q.applyCall c).map fun result => result.map fun _ => ()

end Mention

/-- The result of a call that was not refused for a table out of scope. -/
def StaysInScope {α : Type} (result : Except Error α) : Prop :=
  ∀ clause table, result ≠ .error (.tableNotInScope clause table)

namespace StaysInScope

variable {α β : Type}

/-- A success is no failure of the scope. -/
theorem ok (a : α) : StaysInScope (.ok a) := nofun

/-- Two steps that stay in scope do so one after the other. -/
theorem bind {x : Except Error α} {f : α → Except Error β} (hx : StaysInScope x)
    (hf : ∀ a, StaysInScope (f a)) : StaysInScope (x >>= f) :=
  fun clause table => bind_ne_error (hx clause table) fun a => hf a clause table

/-- What is made of a result does not matter to the scope. -/
theorem map {x : Except Error α} (hx : StaysInScope x) (f : α → β) : StaysInScope (x.map f) :=
  fun clause table h => hx clause table (map_eq_error.mp h)

/-- A call whose outcome is that of a step stays in scope like the step. -/
theorem of_eq_some {x : Except Error α} {f : α → β} {result : Except Error β}
    (h : some (x.map f) = some result) (hx : StaysInScope x) : StaysInScope result := by
  obtain rfl := Option.some.inj h
  exact hx.map f

/-- Columns in scope pass the check. -/
theorem checkScope {clause : Clause} {scope : List TableId} {columns : List Column}
    (h : InScope scope columns) : StaysInScope (checkScope clause scope columns) := by
  rw [checkScope_eq_ok.mpr h]
  exact ok ()

/-- Filling a clause has no scope. -/
theorem fillOnce (clause : Clause) (present : Option α) (value : α) :
    StaysInScope (fillOnce clause present value) := by
  cases present <;> nofun

/-- A limit has no scope. -/
theorem ofNats (count offset : Nat) : StaysInScope (Limit.ofNats count offset) := by
  unfold Limit.ofNats
  split
  · nofun
  · split <;> nofun

/-- A checked clause stays in scope if its columns are. -/
theorem fill {checked given : Clause} {scope : List TableId} {columns : List Column}
    {present : Option α} {value : α} {make : Option α → β} (h : InScope scope columns) :
    StaysInScope (do
      TypedQuery.checkScope checked scope columns
      let clause ← TypedQuery.fillOnce given present value
      pure (make clause)) :=
  (checkScope h).bind fun _ => (fillOnce given present value).bind fun _ => ok _

/-- A filter over the table stays in scope. -/
theorem fillFilter {t : Table} {present : Option Filter} {f : Filter}
    (h : InScope [t.id] f.columnList) : StaysInScope (fillFilter t present f) :=
  (checkScope h).bind fun _ => fillOnce _ _ _

/-- An ordering over the table stays in scope. -/
theorem fillOrderBy {t : Table} {present : Option OrderBy} {order : OrderBy}
    (h : InScope [t.id] order.columnList) : StaysInScope (fillOrderBy t present order) :=
  (checkScope h).bind fun _ => fillOnce _ _ _

/-- A limit of a change has no scope. -/
theorem fillLimit (present : Option Limit) (count offset : Nat) :
    StaysInScope (fillLimit present count offset) :=
  (ofNats count offset).bind fun _ => fillOnce _ _ _

/-- A limit of a selection has no scope. -/
theorem limitOffset (q : Select) (count offset : Nat) : StaysInScope (q.limitOffset count offset) :=
  (ofNats count offset).bind fun _ => (fillOnce _ _ _).bind fun _ => ok _

/-- A union has no scope of its own. -/
theorem unions (q other : Select) (op : SetOperator) : StaysInScope (q.unions op other) := by
  unfold Select.unions
  split
  · nofun
  · cases q <;> nofun

/-- A refusal for another reason than the scope stays in scope. -/
theorem refuse {c : Prop} [Decidable c] {e : Error} {f : β → Except Error α} {x : Except Error α}
    (he : ∀ clause table, e ≠ .tableNotInScope clause table) (hx : StaysInScope x) :
    StaysInScope (if c then Except.error e >>= f else x) := by
  split
  · exact fun clause table h => he clause table (Except.error.inj h)
  · exact hx

/-- A filter of groups stays in scope if its columns are. -/
theorem having {q : Select} {f : Filter} (h : InScope q.tables f.columnList) :
    StaysInScope (q.having f) :=
  refuse nofun (fill h)

/-- The condition of a join stays in scope if its columns are. -/
theorem constrain {j : Join} {f : Filter} (h : InScope j.tables f.columnList) :
    StaysInScope (j.constrain f) :=
  refuse nofun (fill h)

/-- Shared columns are not refused for the scope. -/
theorem share (j : Join) (columns : List Column) : StaysInScope (j.share columns) := by
  refine refuse nofun (refuse nofun ?_)
  cases Join.repeatedName? [] (columns.map Column.name) with
  | some name => exact fun clause table h => absurd (Except.error.inj h) nofun
  | none => exact refuse nofun ((fillOnce _ _ _).bind fun _ => ok _)

end StaysInScope

namespace Mention

/-- The handles of a join are those of its tables. -/
theorem map_id_handles_join (j : Join) : j.toRelation.handles.map Table.id = j.tables :=
  j.toRelation.map_id_handles

/-- Columns that are taken come from tables in scope. -/
theorem inScope_of_ok {m : Mention} (h : m.outcome = some (.ok ())) :
    InScope (m.handles.map Table.id) m.columns := by
  cases m with
  | select r columns =>
    obtain ⟨q, hq, -⟩ := map_eq_ok.mp (Option.some.inj h)
    rw [handles, r.map_id_handles]
    exact (Select.ofRelation_eq_ok.mp hq).1
  | insert t columns =>
    obtain ⟨q, hq, -⟩ := map_eq_ok.mp (Option.some.inj h)
    obtain ⟨⟨⟩, hscope, -⟩ := bind_eq_ok.mp hq
    exact checkScope_eq_ok.mp hscope
  | update t columns =>
    obtain ⟨q, hq, -⟩ := map_eq_ok.mp (Option.some.inj h)
    obtain ⟨⟨⟩, hscope, -⟩ := bind_eq_ok.mp hq
    exact checkScope_eq_ok.mp hscope
  | condition j f =>
    obtain ⟨q, hq, -⟩ := map_eq_ok.mp (Option.some.inj h)
    rw [handles, map_id_handles_join]
    exact (Join.constrain_eq_ok.mp hq).2.1
  | shared j columns =>
    obtain ⟨q, hq, -⟩ := map_eq_ok.mp (Option.some.inj h)
    obtain ⟨-, -, -, htables, -⟩ := Join.share_eq_ok.mp hq
    rw [handles, map_id_handles_join]
    intro c hc
    rcases htables with hleft | hright
    · rw [hleft c hc]
      exact List.mem_append_left _ (List.mem_of_getElem? j.left.tables_last)
    · rw [hright c hc]
      exact List.mem_append_right _ List.mem_cons_self
  | call q c =>
    obtain ⟨result, hresult, hok⟩ := Option.map_eq_some_iff.mp h
    obtain ⟨q', rfl, -⟩ := map_eq_ok.mp hok
    rw [handles, q.map_id_handles]
    cases c with
    | filter f => exact ((Query.applyCall_eq_ok rfl).mp hresult).1
    | groupBy columns => exact ((Query.applyCall_eq_ok rfl).mp hresult).1
    | having f => exact ((Query.applyCall_eq_ok rfl).mp hresult).1
    | orderBy order => exact ((Query.applyCall_eq_ok rfl).mp hresult).1
    | limit count offset => exact nofun
    | union op other => exact nofun
    | number => exact nofun

/-- A call that brings columns of tables in scope to a query is not refused for a table. -/
theorem call_staysInScope {q : Query} {c : Call} (h : InScope q.scope c.columns)
    {result : Except Error Query} (hresult : q.applyCall c = some result) :
    StaysInScope result := by
  cases q with
  | select q =>
    obtain rfl := Option.some.inj hresult
    refine StaysInScope.map ?_ _
    cases c with
    | filter f => exact .fill h
    | groupBy columns => exact .fill h
    | having f => exact .having h
    | orderBy order => exact .fill h
    | limit count offset => exact .limitOffset q count offset
    | union op other => exact .unions q other op
    | number => exact .ok _
  | insert q => cases hresult
  | update q =>
    obtain ⟨filled, hfilled, rfl⟩ := Option.map_eq_some_iff.mp hresult
    refine StaysInScope.map ?_ _
    cases c with
    | filter f => exact .of_eq_some hfilled (.fillFilter h)
    | orderBy order => exact .of_eq_some hfilled (.fillOrderBy h)
    | limit count offset => exact .of_eq_some hfilled (.fillLimit _ count offset)
    | number =>
      obtain rfl := Option.some.inj hfilled
      exact .ok _
    | _ => cases hfilled
  | delete q =>
    obtain ⟨filled, hfilled, rfl⟩ := Option.map_eq_some_iff.mp hresult
    refine StaysInScope.map ?_ _
    cases c with
    | filter f => exact .of_eq_some hfilled (.fillFilter h)
    | orderBy order => exact .of_eq_some hfilled (.fillOrderBy h)
    | limit count offset => exact .of_eq_some hfilled (.fillLimit _ count offset)
    | number =>
      obtain rfl := Option.some.inj hfilled
      exact .ok _
    | _ => cases hfilled
  | count q =>
    obtain ⟨filled, hfilled, rfl⟩ := Option.map_eq_some_iff.mp hresult
    refine StaysInScope.map ?_ _
    cases c with
    | filter f => exact .of_eq_some hfilled (.fillFilter h)
    | number =>
      obtain rfl := Option.some.inj hfilled
      exact .ok _
    | _ => cases hfilled

/-- Columns of tables in scope are not refused for their table. -/
theorem staysInScope {m : Mention} (h : InScope (m.handles.map Table.id) m.columns)
    {result : Except Error Unit} (hresult : m.outcome = some result) : StaysInScope result := by
  cases m with
  | select r columns =>
    rw [handles, r.map_id_handles] at h
    exact .of_eq_some hresult ((StaysInScope.checkScope h).bind fun _ => .ok _)
  | insert t columns =>
    exact .of_eq_some hresult ((StaysInScope.checkScope h).bind fun _ => .ok _)
  | update t columns =>
    exact .of_eq_some hresult ((StaysInScope.checkScope h).bind fun _ => .ok _)
  | condition j f =>
    rw [handles, map_id_handles_join] at h
    exact .of_eq_some hresult (.constrain h)
  | shared j columns => exact .of_eq_some hresult (.share j columns)
  | call q c =>
    rw [handles, q.map_id_handles] at h
    obtain ⟨result, hcall, rfl⟩ := Option.map_eq_some_iff.mp hresult
    exact (call_staysInScope h hcall).map _

/-- If all columns come from tables in scope, no scope check fails. -/
theorem passes {m : Mention} (h : InScope (m.handles.map Table.id) m.columns) :
    (∀ clause, checkScope clause (m.handles.map Table.id) m.columns = .ok ()) ∧
      ∀ clause table, m.outcome ≠ some (.error (.tableNotInScope clause table)) :=
  ⟨fun _ => checkScope_eq_ok.mpr h, fun clause table houtcome =>
    m.staysInScope h houtcome clause table rfl⟩

/-- If a column comes from no table in scope, every scope check fails and nothing is taken. -/
theorem refused {m : Mention} {c : Column} (hc : c ∈ m.columns)
    (h : c.table ∉ m.handles.map Table.id) :
    (∀ clause, ∃ table, checkScope clause (m.handles.map Table.id) m.columns =
        .error (.tableNotInScope clause table)) ∧ m.outcome ≠ some (.ok ()) := by
  have hscope : ¬InScope (m.handles.map Table.id) m.columns := fun hall => h (hall c hc)
  refine ⟨fun clause => ?_, fun hok => hscope (inScope_of_ok hok)⟩
  unfold checkScope
  cases hfirst : firstOutOfScope (m.handles.map Table.id) m.columns with
  | some d => exact ⟨d.tableName, rfl⟩
  | none =>
    have hpass : checkScope clause (m.handles.map Table.id) m.columns = .ok () := by
      rw [checkScope, hfirst]
    exact absurd (checkScope_eq_ok.mp hpass) hscope

end Mention

end TypedQuery
