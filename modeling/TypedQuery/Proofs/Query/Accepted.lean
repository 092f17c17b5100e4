import TypedQuery.Proofs.Outcome
import TypedQuery.Query.Call

/-!
# What builder calls accept

Each call that gives a query a clause is accepted on a condition of its own, and an accepted call
changes that clause and nothing else. The lemmas say both at once: a call yields a query exactly if
its condition holds and the query is the old one with the clause filled. Whatever is shown of built
queries rests on these lemmas and not on the bodies of the calls.
-/

set_option autoImplicit false

namespace TypedQuery

/-- Columns of the given tables only. -/
def InScope (scope : List TableId) (columns : List Column) : Prop :=
  ∀ c ∈ columns, c.table ∈ scope

/-! ## The checks -/

theorem checkScope_eq_ok {clause : Clause} {scope : List TableId} {columns : List Column}
    {result : Unit} : checkScope clause scope columns = .ok result ↔ InScope scope columns := by
  unfold checkScope
  cases h : firstOutOfScope scope columns with
  | some c =>
    have hc := List.find?_some h
    have hmem := List.mem_of_find?_eq_some h
    simp only [reduceCtorEq, false_iff]
    intro hscope
    simp [hscope c hmem] at hc
  | none =>
    simp only [true_iff]
    intro c hc
    simpa using List.find?_eq_none.mp h c hc

theorem fillOnce_eq_ok {α : Type} {clause : Clause} {present result : Option α} {value : α} :
    fillOnce clause present value = .ok result ↔ present = none ∧ result = some value := by
  cases present with
  | some a => simp [fillOnce]
  | none => simp [fillOnce, eq_comm]

/-- A clause with columns is filled if they are in scope and the clause was not given before. -/
theorem checkScope_fillOnce_eq_ok {α β : Type} {checked given : Clause} {scope : List TableId}
    {columns : List Column} {present : Option α} {value : α} {make : Option α → β} {b : β} :
    (do
      checkScope checked scope columns
      let clause ← fillOnce given present value
      pure (make clause)) = Except.ok b ↔
      InScope scope columns ∧ present = none ∧ b = make (some value) := by
  simp only [bind_eq_ok, checkScope_eq_ok, fillOnce_eq_ok, pure_eq_ok]
  constructor
  · rintro ⟨-, hscope, _, ⟨hnone, rfl⟩, rfl⟩
    exact ⟨hscope, hnone, rfl⟩
  · rintro ⟨hscope, hnone, rfl⟩
    exact ⟨(), hscope, _, ⟨hnone, rfl⟩, rfl⟩

theorem Limit.ofNats_eq_ok {count offset : Nat} {l : Limit} :
    Limit.ofNats count offset = .ok l ↔
      count ≤ greatestLimit ∧ offset ≤ greatestLimit ∧ l = ⟨count, offset⟩ := by
  unfold Limit.ofNats
  split
  · simp only [reduceCtorEq, false_iff]
    omega
  · split
    · simp only [reduceCtorEq, false_iff]
      omega
    · simp only [Except.ok.injEq]
      constructor
      · intro h
        exact ⟨by omega, by omega, h.symm⟩
      · rintro ⟨-, -, h⟩
        exact h.symm

/-! ## Joins -/

namespace Join

/-- A condition is accepted by a join that is not natural and has no constraint yet, if it mentions
tables of the chain only. -/
theorem constrain_eq_ok {j j' : Join} {f : Filter} :
    j.constrain f = .ok j' ↔
      j.kind.isNatural = false ∧ InScope j.tables f.columnList ∧ j.constraint = none ∧
        j' = { j with constraint := some (.condition f) } := by
  unfold constrain
  rw [refuse_eq_ok, checkScope_fillOnce_eq_ok, Bool.not_eq_true]

/-- No name is found a second time exactly if all names are distinct and none was seen before. -/
theorem repeatedName?_eq_none {seen names : List String} :
    repeatedName? seen names = none ↔ names.Nodup ∧ ∀ name ∈ names, name ∉ seen := by
  fun_induction repeatedName? seen names with
  | case1 seen => simp
  | case2 seen name rest h =>
    simp only [reduceCtorEq, List.mem_cons, forall_eq_or_imp, false_iff]
    rintro ⟨-, hname, -⟩
    exact hname (by simpa using h)
  | case3 seen name rest h ih =>
    have hname : name ∉ seen := by simpa using h
    simp only [ih, List.nodup_cons, List.mem_cons, forall_eq_or_imp, not_or]
    constructor
    · rintro ⟨hrest, hall⟩
      exact ⟨⟨fun hmem => (hall name hmem).1 rfl, hrest⟩, hname, fun n hn => (hall n hn).2⟩
    · rintro ⟨⟨hmem, hrest⟩, -, hall⟩
      exact ⟨hrest, fun n hn => ⟨fun heq => hmem (heq ▸ hn), hall n hn⟩⟩

/-- Shared columns are accepted by a join that is not natural and has no constraint yet, if there is
at least one, their names are distinct and they come all from the table directly left of the join or
all from its right table. -/
theorem share_eq_ok {j j' : Join} {columns : List Column} :
    j.share columns = .ok j' ↔
      j.kind.isNatural = false ∧ columns ≠ [] ∧ (columns.map Column.name).Nodup ∧
        ((∀ c ∈ columns, c.table = j.left.rightmost.id) ∨ ∀ c ∈ columns, c.table = j.right.id) ∧
        j.constraint = none ∧ j' = { j with constraint := some (.shared columns) } := by
  unfold share
  simp only [refuse_eq_ok, Bool.not_eq_true]
  -- The checks behind the repeated name are reached only if there is none.
  cases hname : repeatedName? [] (columns.map Column.name) with
  | some name =>
    have hrepeated : ¬(columns.map Column.name).Nodup := by
      intro hnodup
      have hnone := repeatedName?_eq_none.mpr ⟨hnodup, fun n _ => List.not_mem_nil⟩
      rw [hnone] at hname
      cases hname
    simp only [bind_eq_ok, reduceCtorEq, false_and, exists_false, and_false, false_iff]
    rintro ⟨-, -, hnodup, -⟩
    exact hrepeated hnodup
  | none =>
    have hnodup := (repeatedName?_eq_none.mp hname).1
    simp only [refuse_eq_ok, bind_eq_ok, fillOnce_eq_ok, pure_eq_ok, Bool.not_eq_true,
      Bool.and_eq_false_iff, Bool.not_eq_false', List.all_eq_true, beq_iff_eq,
      List.isEmpty_eq_false_iff]
    constructor
    · rintro ⟨hkind, hempty, htables, _, ⟨hnone, rfl⟩, rfl⟩
      exact ⟨hkind, hempty, hnodup, htables, hnone, rfl⟩
    · rintro ⟨hkind, hempty, -, htables, hnone, rfl⟩
      exact ⟨hkind, hempty, htables, _, ⟨hnone, rfl⟩, rfl⟩

end Join

/-! ## Selections -/

namespace Select

/-- A selection is accepted if its result columns come from its relation. -/
theorem ofRelation_eq_ok {relation : Relation} {columns : List ResultColumn} {q : Select} :
    ofRelation relation columns = .ok q ↔
      InScope relation.tables (columns.map fun c => c.expr.base) ∧
        q = .simple ⟨relation, columns, none, none, none, none, none⟩ := by
  unfold ofRelation
  simp only [bind_eq_ok, checkScope_eq_ok, pure_eq_ok]
  constructor
  · rintro ⟨-, hscope, rfl⟩
    exact ⟨hscope, rfl⟩
  · rintro ⟨hscope, rfl⟩
    exact ⟨(), hscope, rfl⟩

theorem filter_eq_ok {q q' : Select} {f : Filter} :
    q.filter f = .ok q' ↔
      InScope q.tables f.columnList ∧ q.part.filter = none ∧
        q' = q.withPart { q.part with filter := some f } := by
  unfold filter
  exact checkScope_fillOnce_eq_ok

theorem groupBy_eq_ok {q q' : Select} {columns : List Column} :
    q.groupBy columns = .ok q' ↔
      InScope q.tables columns ∧ q.part.groupBy = none ∧
        q' = q.withPart { q.part with groupBy := some columns } := by
  unfold groupBy
  exact checkScope_fillOnce_eq_ok

/-- A condition on groups is accepted only where there are groups. -/
theorem having_eq_ok {q q' : Select} {f : Filter} :
    q.having f = .ok q' ↔
      q.part.groupBy.isSome = true ∧ InScope q.tables f.columnList ∧ q.part.having = none ∧
        q' = q.withPart { q.part with having := some f } := by
  unfold having
  rw [refuse_eq_ok, checkScope_fillOnce_eq_ok, Bool.not_eq_true, Option.isNone_eq_false_iff]

theorem orderBy_eq_ok {q q' : Select} {order : OrderBy} :
    q.orderBy order = .ok q' ↔
      InScope q.tables order.columnList ∧ q.part.orderBy = none ∧
        q' = q.withPart { q.part with orderBy := some order } := by
  unfold orderBy
  exact checkScope_fillOnce_eq_ok

theorem limitOffset_eq_ok {q q' : Select} {count offset : Nat} :
    q.limitOffset count offset = .ok q' ↔
      count ≤ greatestLimit ∧ offset ≤ greatestLimit ∧ q.part.limit = none ∧
        q' = q.withPart { q.part with limit := some ⟨count, offset⟩ } := by
  unfold limitOffset
  simp only [bind_eq_ok, Limit.ofNats_eq_ok, fillOnce_eq_ok, pure_eq_ok]
  constructor
  · rintro ⟨_, ⟨hcount, hoffset, rfl⟩, _, ⟨hnone, rfl⟩, rfl⟩
    exact ⟨hcount, hoffset, hnone, rfl⟩
  · rintro ⟨hcount, hoffset, hnone, rfl⟩
    exact ⟨_, ⟨hcount, hoffset, rfl⟩, _, ⟨hnone, rfl⟩, rfl⟩

/-- A selection goes on in another one that is neither sorted nor limited, unless it already goes on
in one. -/
theorem unions_eq_ok {q q' other : Select} {op : SetOperator} :
    q.unions op other = .ok q' ↔
      other.part.orderBy = none ∧ other.part.limit = none ∧
        ∃ part, q = .simple part ∧ q' = .compound part op other := by
  unfold unions
  split
  · next h =>
    simp only [reduceCtorEq, false_iff]
    rintro ⟨horder, hlimit, -⟩
    simp [horder, hlimit] at h
  · next h =>
    have hplain : other.part.orderBy = none ∧ other.part.limit = none := by
      simpa using h
    cases q with
    | simple part => simp [hplain, eq_comm]
    | compound part op' other' => simp

end Select

/-! ## Queries over a single table -/

theorem fillFilter_eq_ok {t : Table} {present result : Option Filter} {f : Filter} :
    fillFilter t present f = .ok result ↔
      InScope [t.id] f.columnList ∧ present = none ∧ result = some f := by
  unfold fillFilter
  simp only [bind_eq_ok, checkScope_eq_ok, fillOnce_eq_ok, exists_const]

theorem fillOrderBy_eq_ok {t : Table} {present result : Option OrderBy} {order : OrderBy} :
    fillOrderBy t present order = .ok result ↔
      InScope [t.id] order.columnList ∧ present = none ∧ result = some order := by
  unfold fillOrderBy
  simp only [bind_eq_ok, checkScope_eq_ok, fillOnce_eq_ok, exists_const]

theorem fillLimit_eq_ok {present result : Option Limit} {count offset : Nat} :
    fillLimit present count offset = .ok result ↔
      count ≤ greatestLimit ∧ offset ≤ greatestLimit ∧ present = none ∧
        result = some ⟨count, offset⟩ := by
  unfold fillLimit
  simp only [bind_eq_ok, Limit.ofNats_eq_ok, fillOnce_eq_ok]
  constructor
  · rintro ⟨_, ⟨hcount, hoffset, rfl⟩, hnone, rfl⟩
    exact ⟨hcount, hoffset, hnone, rfl⟩
  · rintro ⟨hcount, hoffset, hnone, rfl⟩
    exact ⟨_, ⟨hcount, hoffset, rfl⟩, hnone, rfl⟩

end TypedQuery
