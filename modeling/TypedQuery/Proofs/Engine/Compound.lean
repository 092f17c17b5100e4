import TypedQuery.Proofs.Engine.Grouping
import TypedQuery.Proofs.Query.Built
import TypedQuery.Query.Rendering

/-!
# Combined selections

A selection that goes on in another one is built as a tree that leans to the right: the second
operand of a set operator is the whole selection behind it. It is written flat, without parentheses,
and the engine reads it from the left: every operator combines all rows so far with those of the
next part. `Engine.run` is this reading, `Engine.nestedRun` the one of the tree. The two agree for
every selection with the same set operators exactly if these regroup; selections of at most one row
show where they do not.
-/

set_option autoImplicit false

namespace TypedQuery

namespace Select

/-- The parts after the first one, each with the set operator in front of it. -/
def links : Select → List (SetOperator × SelectPart)
  | .simple _ => []
  | .compound _ op other => (op, other.part) :: other.links

/-- The set operators of a selection, in the order in which they are written. -/
def operators (q : Select) : List SetOperator := q.links.map Prod.fst

/-- A part behind its set operator. -/
def linkSql (link : SetOperator × SelectPart) : List Char :=
  ' ' :: link.1.sql.toList ++ ' ' :: link.2.headSql

/-- No part at all is sorted or limited. -/
def Plain (q : Select) : Prop := ∀ p ∈ q.parts, p.orderBy = none ∧ p.limit = none

theorem NestedPlain.plain {part : SelectPart} {op : SetOperator} {other : Select}
    (h : (compound part op other).NestedPlain) : other.Plain := h

theorem Plain.part {q : Select} (h : q.Plain) : q.part.orderBy = none ∧ q.part.limit = none :=
  h q.part (q.parts_eq ▸ List.mem_cons_self)

theorem Plain.nestedPlain {q : Select} (h : q.Plain) : q.NestedPlain :=
  fun p hp => h p (List.mem_of_mem_tail hp)

/-- A selection is written part by part, with nothing that groups the set operators. -/
theorem sql_eq {q : Select} (h : q.NestedPlain) :
    q.sql = q.part.headSql ++ q.links.flatMap linkSql ++ trailingSql q.part.orderBy q.part.limit := by
  induction q with
  | simple part => simp [sql, Select.part, links]
  | compound part op other ih =>
    obtain ⟨horder, hlimit⟩ := h.plain.part
    have hother := ih h.plain.nestedPlain
    rw [horder, hlimit, show trailingSql none none = [] from rfl, List.append_nil] at hother
    rw [sql, hother]
    simp [Select.part, links, linkSql]

end Select

namespace Engine

section Runs

variable (store : Store) (bindings : Bindings)

/-- The rows of a part as an operand: in no order, and all of them. -/
def operandRun (p : SelectPart) : Traversal :=
  runPart store bindings { p with orderBy := none } none

/-- The rows of the parts after the first one, each with the set operator in front of it. -/
def operands (q : Select) : List (SetOperator × Traversal) :=
  q.links.map fun link => (link.1, operandRun store bindings link.2)

/-- The run of a selection as its tree says: the first part combined with the run of the whole
selection behind the set operator. -/
def nestedRun : Select → Traversal
  | .simple part => runPart store bindings part part.limit
  | .compound part op other =>
    (sortCombined part (combine op (operandRun store bindings part) (nestedRun other))).cut part.limit

variable {store bindings}

@[simp]
theorem map_fst_operands (q : Select) : (operands store bindings q).map Prod.fst = q.operators := by
  simp [operands, Select.operators, Function.comp_def]

/-- The engine combines the parts from left to right, and sorts and cuts at the end. -/
theorem run_compound (part : SelectPart) (op : SetOperator) (other : Select) :
    run store bindings (.compound part op other) =
      (sortCombined part (fromLeft combine (operandRun store bindings part)
        (operands store bindings (.compound part op other)))).cut part.limit := by
  have hrun : ∀ soFar op, runCompound store bindings soFar op other =
      fromLeft combine (combine op soFar (operandRun store bindings other.part))
        (operands store bindings other) := by
    induction other with
    | simple part => exact fun _ _ => rfl
    | compound part next other ih => exact fun _ _ => ih _ next
  rw [run, hrun]
  rfl

theorem sortCombined_of_none {p : SelectPart} (h : p.orderBy = none) (t : Traversal) :
    sortCombined p t = t := by
  rw [sortCombined, h]

/-- A selection of which no part is sorted or limited combines the parts only. -/
theorem run_of_plain {q : Select} (h : q.Plain) :
    run store bindings q =
      fromLeft combine (operandRun store bindings q.part) (operands store bindings q) := by
  cases q with
  | simple part =>
    obtain ⟨horder, hlimit⟩ : part.orderBy = none ∧ part.limit = none := h.part
    have hpart : { part with orderBy := none } = part := by rw [← horder]
    rw [run, hlimit]
    simp only [operands, Select.links, List.map_nil, fromLeft_nil, operandRun, Select.part, hpart]
  | compound part op other =>
    obtain ⟨horder, hlimit⟩ : part.orderBy = none ∧ part.limit = none := h.part
    rw [run_compound, sortCombined_of_none horder, hlimit]
    rfl

/-- What the tree of such a selection says is that the parts are nested. -/
theorem nestedRun_of_plain {q : Select} (h : q.Plain) :
    nestedRun store bindings q =
      nested combine (operandRun store bindings q.part) (operands store bindings q) := by
  induction q with
  | simple part => exact run_of_plain h
  | compound part op other ih =>
    obtain ⟨horder, hlimit⟩ : part.orderBy = none ∧ part.limit = none := h.part
    rw [nestedRun, sortCombined_of_none horder, hlimit, ih h.nestedPlain.plain]
    rfl

/-- What the tree of a selection says that is sorted and limited as a whole. -/
theorem nestedRun_compound {part : SelectPart} {op : SetOperator} {other : Select}
    (h : (Select.compound part op other).NestedPlain) :
    nestedRun store bindings (.compound part op other) =
      (sortCombined part (nested combine (operandRun store bindings part)
        (operands store bindings (.compound part op other)))).cut part.limit := by
  rw [nestedRun, nestedRun_of_plain h.plain]
  rfl

/-- If its operators regroup, a selection has the rows that its tree says. -/
theorem run_eq_nestedRun {q : Select} (h : q.NestedPlain) (hregroups : Regroups q.operators) :
    run store bindings q = nestedRun store bindings q := by
  cases q with
  | simple part => rfl
  | compound part op other =>
    have hcombined := @Regroups.fromLeft_eq_nested (operandRun store bindings part)
      (operands store bindings (.compound part op other)) (by rwa [map_fst_operands])
    rw [run_compound, nestedRun_compound h, hcombined]

end Runs

/-- A built selection goes on in another one that is neither sorted nor limited. -/
theorem built_compound {part : SelectPart} {other : Select}
    (hpart : (Query.select (.simple part)).Built) (hother : (Query.select other).Built)
    (horder : other.part.orderBy = none) (hlimit : other.part.limit = none) (op : SetOperator) :
    (Query.select (.compound part op other)).Built := by
  refine hpart.call (c := .union op other) ?_ (Query.applyCall_select_eq_ok.mpr ⟨_, ?_, rfl⟩)
  · rintro _ _ ⟨⟩
    exact hother
  · exact Select.unions_eq_ok.mpr ⟨horder, hlimit, part, rfl, rfl⟩

/-! ## Where the two readings differ -/

namespace OneNumber

/-- A store with one table of one number. -/
def store : Store := ⟨[⟨"t", [⟨"c", "INTEGER", ""⟩], [⟨1, [.integer 1]⟩]⟩], []⟩

def table : Table := ⟨⟨1⟩, "t", [⟨"c", .integer⟩]⟩

def column : Column := ⟨⟨1⟩, "t", 0, "c", .integer⟩

/-- The selection of the number, or of those that are nothing. -/
def part (present : Bool) : SelectPart where
  relation := .table table
  columns := [⟨.column column, .int .int64⟩]
  filter := if present then none else some (.compare .eq (.column column) .null false)
  groupBy := none
  having := none
  orderBy := none
  limit := none

theorem operandRun_part (present : Bool) :
    operandRun store .none (part present) = copies present.toNat := by
  cases present <;> decide +kernel

theorem built_part (present : Bool) : (Query.select (.simple (part present))).Built := by
  have hall : (Query.select (.simple (part true))).Built :=
    @Query.Built.ofTable table (part true).columns (.simple (part true)) rfl
  cases present with
  | true => exact hall
  | false =>
    exact hall.call (c := .filter (.compare .eq (.column column) .null false)) nofun rfl

/-- Such selections, combined by set operators. -/
def chain (first : Bool) : List (SetOperator × Bool) → Select
  | [] => .simple (part first)
  | (op, next) :: links => .compound (part first) op (chain next links)

variable (first : Bool) (links : List (SetOperator × Bool))

@[simp]
theorem part_chain : (chain first links).part = part first := by
  cases links <;> rfl

theorem links_chain : (chain first links).links = links.map (Prod.map id part) := by
  induction links generalizing first with
  | nil => rfl
  | cons link links ih =>
    obtain ⟨op, next⟩ := link
    simp [chain, Select.links, ih]

theorem plain_chain : (chain first links).Plain := by
  induction links generalizing first with
  | nil => simp [chain, Select.Plain, Select.parts, part]
  | cons link links ih => exact List.forall_mem_cons.mpr ⟨⟨rfl, rfl⟩, ih link.2⟩

theorem built_chain : (Query.select (chain first links)).Built := by
  induction links generalizing first with
  | nil => exact built_part first
  | cons link links ih =>
    obtain ⟨horder, hlimit⟩ := (plain_chain link.2 links).part
    exact built_compound (built_part first) (ih link.2) horder hlimit link.1

theorem operators_chain : (chain first links).operators = links.map Prod.fst := by
  simp [Select.operators, links_chain, Function.comp_def]

theorem operands_chain :
    operands store .none (chain first links) = (counted links).map (Prod.map id copies) := by
  simp [operands, links_chain, counted, operandRun_part, Function.comp_def, Prod.map]

theorem run_chain :
    run store .none (chain first links) =
      copies (fromLeft times first.toNat (counted links)) := by
  rw [run_of_plain (plain_chain first links), operands_chain, part_chain, operandRun_part,
    map_fromLeft fun op m n => (combine_copies op m n).symm]

theorem nestedRun_chain :
    nestedRun store .none (chain first links) =
      copies (nested times first.toNat (counted links)) := by
  rw [nestedRun_of_plain (plain_chain first links), operands_chain, part_chain, operandRun_part,
    map_nested fun op m n => (combine_copies op m n).symm]

end OneNumber

/-- A built selection is written flat, its parts and set operators one after the other and an
ordering and a limit at the end, and the engine combines its parts from left to right. This is what
the tree of the selection says if its set operators regroup: every two in a row do, or all are
`UNION` and `UNION ALL` and the first and the last remove repetitions. Otherwise a selection with
the same set operators has more or fewer rows than its tree says. -/
theorem run_of_built {q : Select} (h : (Query.select q).Built) :
    q.sql = q.part.headSql ++ q.links.flatMap Select.linkSql ++
        trailingSql q.part.orderBy q.part.limit ∧
      (∀ store bindings part op other, q = .compound part op other →
        run store bindings q = (sortCombined part (fromLeft combine
          (operandRun store bindings part) (operands store bindings q))).cut part.limit) ∧
      (Regroups q.operators →
        ∀ store bindings, run store bindings q = nestedRun store bindings q) ∧
      (¬Regroups q.operators →
        ∃ (r : Select) (store : Store) (bindings : Bindings),
          (Query.select r).Built ∧ r.operators = q.operators ∧
            (run store bindings r).rows.length ≠ (nestedRun store bindings r).rows.length) := by
  have hplain : q.NestedPlain := h.nestedPlain q rfl
  refine ⟨Select.sql_eq hplain, ?_, fun hregroups _ _ => run_eq_nestedRun hplain hregroups, ?_⟩
  · rintro store bindings part op other rfl
    exact run_compound part op other
  · intro hnot
    obtain ⟨first, links, hlinks, hne⟩ := exists_times_ne hnot
    refine ⟨OneNumber.chain first links, OneNumber.store, .none,
      OneNumber.built_chain first links, (OneNumber.operators_chain first links).trans hlinks, ?_⟩
    rw [OneNumber.run_chain, OneNumber.nestedRun_chain]
    simpa [copies] using hne

/-- The rows of a table that are in it and not in it: none, however they are grouped. -/
theorem run_of_built_of_intersect_except :
    let q := OneNumber.chain true [(.intersect, true), (.except, true)]
    Regroups q.operators ∧
      run OneNumber.store .none q = nestedRun OneNumber.store .none q := by
  intro q
  have hregroups : Regroups q.operators := .inl (by decide)
  obtain ⟨-, -, hsame, -⟩ := run_of_built (OneNumber.built_chain true
    [(.intersect, true), (.except, true)])
  exact ⟨hregroups, hsame hregroups OneNumber.store .none⟩

/-- The rows of a table without those that are in it and not in it: as it is built everything is
left, but read from the left nothing is. -/
theorem run_ne_nestedRun_of_two_excepts :
    let q := OneNumber.chain true [(.except, true), (.except, true)]
    (Query.select q).Built ∧
      q.sql = "SELECT t.c FROM t EXCEPT SELECT t.c FROM t EXCEPT SELECT t.c FROM t".toList ∧
      run OneNumber.store .none q = ⟨[], none⟩ ∧
      nestedRun OneNumber.store .none q = ⟨[[.integer 1]], none⟩ :=
  ⟨OneNumber.built_chain .., by decide +kernel, by decide +kernel, by decide +kernel⟩

end Engine

end TypedQuery
