import TypedQuery.Proofs.Query.Accepted
import TypedQuery.Proofs.Query.Parts

/-!
# Built queries

A query is built if a sequence of accepted calls makes it: a table or a chain of joins is opened,
and clauses are given one by one. The selection that a set operator goes on in is built as well, by
calls of its own. What holds of every built query is shown by induction on this sequence.
-/

set_option autoImplicit false

namespace TypedQuery

/-- Chains of joins that accepted calls make. -/
inductive Join.Built : Join → Prop where
  | first (t : Table) (kind : JoinKind) (right : Table) : Join.Built (t.join kind right)
  | extend {j : Join} (built : j.Built) (kind : JoinKind) (right : Table) :
      Join.Built (j.join kind right)
  | constrain {j j' : Join} {f : Filter} (built : j.Built) (accepted : j.constrain f = .ok j') :
      Join.Built j'
  | share {j j' : Join} {columns : List Column} (built : j.Built)
      (accepted : j.share columns = .ok j') : Join.Built j'

/-- Queries that accepted calls make. -/
inductive Query.Built : Query → Prop where
  | ofTable {t : Table} {columns : List ResultColumn} {q : Select}
      (accepted : t.select columns = .ok q) : Query.Built (.select q)
  | ofJoin {j : Join} {columns : List ResultColumn} {q : Select} (join : j.Built)
      (accepted : j.select columns = .ok q) : Query.Built (.select q)
  | insert {t : Table} {columns : List Column} {q : Insert}
      (accepted : t.insert columns = .ok q) : Query.Built (.insert q)
  | insertDefault (t : Table) : Query.Built (.insert t.insertDefault)
  | update {t : Table} {columns : List Column} {q : Update}
      (accepted : t.update columns = .ok q) : Query.Built (.update q)
  | delete (t : Table) : Query.Built (.delete t.delete)
  | count (t : Table) : Query.Built (.count t.count)
  /-- Any call; a selection that it goes on in has to be built itself. -/
  | call {q q' : Query} {c : Call} (built : q.Built)
      (others : ∀ op other, c = .union op other → Query.Built (.select other))
      (accepted : q.applyCall c = some (.ok q')) : Query.Built q'

/-! ## Accepted calls -/

namespace Query

/-- An accepted call to a selection yields a selection. -/
theorem applyCall_select_eq_ok {q : Select} {c : Call} {q' : Query} :
    (Query.select q).applyCall c = some (.ok q') ↔
      ∃ s, q.applyCall c = .ok s ∧ q' = .select s := by
  simp only [applyCall, Option.some.injEq, map_eq_ok, eq_comm (b := q')]

/-- What an accepted call to an update does. -/
theorem applyCall_update_eq_ok {q : Update} {c : Call} {q' : Query} :
    (Query.update q).applyCall c = some (.ok q') ↔
      ∃ u, q.applyCall c = some (.ok u) ∧ q' = .update u := by
  simp only [applyCall, Option.map_eq_some_iff, map_eq_ok]
  constructor
  · rintro ⟨x, hx, u, rfl, rfl⟩
    exact ⟨u, hx, rfl⟩
  · rintro ⟨u, hu, rfl⟩
    exact ⟨_, hu, u, rfl, rfl⟩

/-- What an accepted call to a deletion does. -/
theorem applyCall_delete_eq_ok {q : Delete} {c : Call} {q' : Query} :
    (Query.delete q).applyCall c = some (.ok q') ↔
      ∃ d, q.applyCall c = some (.ok d) ∧ q' = .delete d := by
  simp only [applyCall, Option.map_eq_some_iff, map_eq_ok]
  constructor
  · rintro ⟨x, hx, d, rfl, rfl⟩
    exact ⟨d, hx, rfl⟩
  · rintro ⟨d, hd, rfl⟩
    exact ⟨_, hd, d, rfl, rfl⟩

/-- What an accepted call to a count does. -/
theorem applyCall_count_eq_ok {q : Count} {c : Call} {q' : Query} :
    (Query.count q).applyCall c = some (.ok q') ↔
      ∃ n, q.applyCall c = some (.ok n) ∧ q' = .count n := by
  simp only [applyCall, Option.map_eq_some_iff, map_eq_ok]
  constructor
  · rintro ⟨x, hx, n, rfl, rfl⟩
    exact ⟨n, hx, rfl⟩
  · rintro ⟨n, hn, rfl⟩
    exact ⟨_, hn, n, rfl, rfl⟩

end Query

/-! ## The parts after a set operator -/

/-- No part after the first one is sorted or limited. -/
def Select.NestedPlain (q : Select) : Prop :=
  ∀ p ∈ q.parts.tail, p.orderBy = none ∧ p.limit = none

namespace Select

theorem NestedPlain.withPart {q : Select} (h : q.NestedPlain) (p : SelectPart) :
    (q.withPart p).NestedPlain := by
  unfold NestedPlain
  rw [parts_withPart]
  exact h

/-- No accepted call sorts or limits a part after the first one: most calls change the first part
only, and a set operator refuses a selection that is sorted or limited itself. -/
theorem NestedPlain.applyCall {q q' : Select} {c : Call} (h : q.NestedPlain)
    (hothers : ∀ op other, c = .union op other → other.NestedPlain)
    (haccepted : q.applyCall c = .ok q') : q'.NestedPlain := by
  cases c with
  | filter f =>
    obtain ⟨-, -, rfl⟩ := filter_eq_ok.mp haccepted
    exact h.withPart _
  | groupBy columns =>
    obtain ⟨-, -, rfl⟩ := groupBy_eq_ok.mp haccepted
    exact h.withPart _
  | having f =>
    obtain ⟨-, -, -, rfl⟩ := having_eq_ok.mp haccepted
    exact h.withPart _
  | orderBy order =>
    obtain ⟨-, -, rfl⟩ := orderBy_eq_ok.mp haccepted
    exact h.withPart _
  | limit count offset =>
    obtain ⟨-, -, -, rfl⟩ := limitOffset_eq_ok.mp haccepted
    exact h.withPart _
  | union op other =>
    obtain ⟨horder, hlimit, part, -, rfl⟩ := unions_eq_ok.mp haccepted
    intro p hp
    rw [parts, List.tail_cons, parts_eq] at hp
    rcases List.mem_cons.mp hp with rfl | hp
    · exact ⟨horder, hlimit⟩
    · exact hothers op other rfl p hp
  | number =>
    cases haccepted
    intro p hp
    obtain ⟨p', hp', n, rfl⟩ := exists_of_mem_tail_parts_number hp
    exact h p' hp'

/-- A selection from a relation has no part after the first one. -/
theorem nestedPlain_of_ofRelation {relation : Relation} {columns : List ResultColumn} {q : Select}
    (h : ofRelation relation columns = .ok q) : q.NestedPlain := by
  obtain ⟨-, rfl⟩ := ofRelation_eq_ok.mp h
  intro p hp
  simp [parts] at hp

end Select

/-- In a built query no part after the first one is sorted or limited. -/
def Query.NestedPlain (q : Query) : Prop := ∀ s, q = .select s → s.NestedPlain

/-- Whatever calls build a query, no part of it after the first one is sorted or limited. -/
theorem Query.Built.nestedPlain {q : Query} (h : q.Built) : q.NestedPlain := by
  induction h with
  | ofTable accepted =>
    rintro s ⟨⟩
    exact Select.nestedPlain_of_ofRelation accepted
  | ofJoin join accepted =>
    rintro s ⟨⟩
    exact Select.nestedPlain_of_ofRelation accepted
  | insert accepted => nofun
  | insertDefault t => nofun
  | update accepted => nofun
  | delete t => nofun
  | count t => nofun
  | @call q q' c built others accepted ih ihothers =>
    cases q with
    | select q =>
      obtain ⟨s, hs, rfl⟩ := applyCall_select_eq_ok.mp accepted
      rintro _ ⟨⟩
      exact (ih q rfl).applyCall (fun op other hc => ihothers op other hc other rfl) hs
    | insert q => simp [applyCall] at accepted
    | update q =>
      obtain ⟨u, -, rfl⟩ := applyCall_update_eq_ok.mp accepted
      nofun
    | delete q =>
      obtain ⟨d, -, rfl⟩ := applyCall_delete_eq_ok.mp accepted
      nofun
    | count q =>
      obtain ⟨n, -, rfl⟩ := applyCall_count_eq_ok.mp accepted
      nofun

end TypedQuery
