import TypedQuery.Proofs.Query.Accepted
import TypedQuery.Proofs.Query.Numbering
import TypedQuery.Proofs.Query.Refusal
import TypedQuery.Proofs.Sql.Listing

/-!
# The columns that the two sides of a join share

A join may be constrained with columns that have to be equal on both sides. They belong to the table
directly left of the join or to its right table, all to the same one; the tables further left do not
matter, unless one of them is the same table. What is refused is refused with the error of the first
rule that is broken (`Join.sharedRules`): the join must not be natural, there has to be a column, no
name may occur twice, the columns may not be mixed, and the constraint has to be open. An accepted
list stands behind the text of the chain as it was given, and nothing else changes.
-/

set_option autoImplicit false

namespace TypedQuery

open Sql

/-! ## Names that occur twice -/

/-- The first name of a list that stands in front of itself already. -/
def FirstRepeated (names : List String) (name : String) : Prop :=
  ∃ before after, names = before ++ name :: after ∧ before.Nodup ∧ name ∈ before

/-- The name that is reported is the first one that was seen before or stands in front of itself. -/
theorem Join.repeatedName?_eq_some {seen names : List String} {name : String} :
    repeatedName? seen names = some name ↔
      ∃ before after, names = before ++ name :: after ∧ before.Nodup ∧
        (∀ n ∈ before, n ∉ seen) ∧ (name ∈ before ∨ name ∈ seen) := by
  fun_induction repeatedName? seen names with
  | case1 seen => simp
  | case2 seen n rest h =>
    have hseen : n ∈ seen := by simpa using h
    constructor
    · intro heq
      obtain rfl := Option.some.inj heq
      exact ⟨[], rest, rfl, List.nodup_nil, List.forall_mem_nil _, .inr hseen⟩
    · rintro ⟨before, after, heq, -, hnew, -⟩
      cases before with
      | nil =>
        obtain ⟨rfl, -⟩ := List.cons.inj heq
        rfl
      | cons m before =>
        obtain ⟨rfl, -⟩ := List.cons.inj heq
        exact absurd hseen (hnew n List.mem_cons_self)
  | case3 seen n rest h ih =>
    have hseen : n ∉ seen := by simpa using h
    rw [ih]
    constructor
    · rintro ⟨before, after, rfl, hnodup, hnew, hname⟩
      have hn : n ∉ before := fun hmem => hnew n hmem List.mem_cons_self
      refine ⟨n :: before, after, rfl, List.nodup_cons.mpr ⟨hn, hnodup⟩, ?_, ?_⟩
      · rintro m (_ | ⟨_, hm⟩)
        · exact hseen
        · exact fun hmem => hnew m hm (List.mem_cons_of_mem n hmem)
      · rcases hname with hbefore | hname
        · exact .inl (List.mem_cons_of_mem n hbefore)
        · rcases List.mem_cons.mp hname with rfl | hname
          · exact .inl List.mem_cons_self
          · exact .inr hname
    · rintro ⟨before, after, heq, hnodup, hnew, hname⟩
      cases before with
      | nil =>
        obtain ⟨rfl, -⟩ := List.cons.inj heq
        rcases hname with hnone | hname
        · cases hnone
        · exact absurd hname hseen
      | cons m before =>
        obtain ⟨rfl, rfl⟩ := List.cons.inj heq
        obtain ⟨hn, hnodup⟩ := List.nodup_cons.mp hnodup
        refine ⟨before, after, rfl, hnodup, ?_, ?_⟩
        · intro m hm hmem
          rcases List.mem_cons.mp hmem with rfl | hmem
          · exact hn hm
          · exact hnew m (List.mem_cons_of_mem n hm) hmem
        · rcases hname with hbefore | hname
          · rcases List.mem_cons.mp hbefore with rfl | hbefore
            · exact .inr List.mem_cons_self
            · exact .inl hbefore
          · exact .inr (List.mem_cons_of_mem n hname)

theorem Join.repeatedName?_nil_eq_some {names : List String} {name : String} :
    repeatedName? [] names = some name ↔ FirstRepeated names name := by
  simp [repeatedName?_eq_some, FirstRepeated]

/-! ## The rules -/

/-- A rule that asks for distinct names. The first one that is repeated is reported. -/
def Rule.distinctNames (columns : List Column) : Rule :=
  fun e => ∃ name, FirstRepeated (columns.map Column.name) name ∧
    e = .invalidJoinConstraint (.repeatedColumn name)

namespace Obeys

variable {α : Type} {rule : Rule} {rules : List Rule}

/-- A rule that is kept reports nothing in front of the others. -/
theorem of_kept {x : Except Error α} (hrule : rule.Kept) (hx : Obeys x rules) :
    Obeys x (rule :: rules) := by
  intro e
  rw [← List.singleton_append, firstBroken_append_iff, firstBroken_singleton_iff,
    List.forall_mem_singleton, or_iff_right (hrule e), hx e]
  exact ⟨fun he => ⟨hrule, he⟩, fun he => he.2⟩

/-- A rule that is broken is reported whatever the others say. -/
theorem of_broken {e : Error} (hrule : ∀ e', rule e' ↔ e' = e) :
    Obeys (Except.error e : Except Error α) (rule :: rules) := by
  intro e'
  have hbroken : ¬rule.Kept := fun hkept => hkept e ((hrule e).mpr rfl)
  rw [← List.singleton_append, firstBroken_append_iff, firstBroken_singleton_iff,
    List.forall_mem_singleton, or_iff_left fun hmore => hbroken hmore.1, hrule e', Except.error.injEq]
  exact eq_comm

end Obeys

namespace Join

/-- The columns come all from the table directly left of the join or all from its right table. -/
def OneSided (j : Join) (columns : List Column) : Prop :=
  (∀ c ∈ columns, c.table = j.left.rightmost.id) ∨ ∀ c ∈ columns, c.table = j.right.id

/-- The rules of shared columns, in the order in which they are checked. -/
def sharedRules (j : Join) (columns : List Column) : List Rule :=
  [.asks (j.kind.isNatural = false) (.invalidJoinConstraint (.naturalUsing j.kind)),
    .asks (columns ≠ []) (.invalidJoinConstraint .noColumns),
    .distinctNames columns,
    .asks (j.OneSided columns)
      (.invalidJoinConstraint (.mixedTables j.left.rightmost.name j.right.name)),
    .asks (j.constraint = none) (.clauseAlreadySet .joinConstraint)]

theorem share_obeys (j : Join) (columns : List Column) :
    Obeys (j.share columns) (j.sharedRules columns) := by
  have hnatural : j.kind.isNatural = true ↔ ¬j.kind.isNatural = false := by simp
  have hempty : columns.isEmpty = true ↔ ¬columns ≠ [] := by simp
  have hsides : ((!columns.all fun c => c.table == j.left.rightmost.id) &&
      !columns.all fun c => c.table == j.right.id) = true ↔ ¬j.OneSided columns := by
    simp [OneSided]
  have hfill : Obeys (do
      let constraint ← fillOnce .joinConstraint j.constraint (.shared columns)
      pure { j with constraint })
      [.asks (j.constraint = none) (.clauseAlreadySet .joinConstraint)] :=
    (obeys_fillOnce .joinConstraint j.constraint _).bind fun _ => .ok _
  refine .refuse hnatural (.refuse hempty ?_)
  cases hname : repeatedName? [] (columns.map Column.name) with
  | some name =>
    apply Obeys.of_broken
    intro e
    simp only [Rule.distinctNames, ← repeatedName?_nil_eq_some, hname, Option.some.injEq]
    exact ⟨fun ⟨_, hrepeated, he⟩ => hrepeated ▸ he, fun he => ⟨name, rfl, he⟩⟩
  | none =>
    apply Obeys.of_kept
    · rintro e ⟨name, hrepeated, -⟩
      rw [← repeatedName?_nil_eq_some, hname] at hrepeated
      cases hrepeated
    · exact .refuse hsides hfill

/-! ## The table to the left -/

/-- The table directly left of a join stands in front of the right one in the chain. -/
theorem exists_tables_eq (j : Join) :
    ∃ before, j.tables = before ++ [j.left.rightmost.id, j.right.id] := by
  have hleft : ∃ before, j.left.tables = before ++ [j.left.rightmost.id] := by
    cases j.left with
    | table t => exact ⟨[], rfl⟩
    | join left kind right constraint => exact ⟨left.tables, rfl⟩
  obtain ⟨before, hbefore⟩ := hleft
  refine ⟨before, ?_⟩
  rw [tables, hbefore, List.append_assoc]
  rfl

/-- Columns that are not from the right table and columns that are not from the table directly left
of the join are not accepted together. -/
theorem share_ne_ok_of_mixed {j j' : Join} {columns : List Column} {c d : Column}
    (hc : c ∈ columns) (hd : d ∈ columns) (hright : c.table ≠ j.right.id)
    (hleft : d.table ≠ j.left.rightmost.id) : j.share columns ≠ .ok j' := by
  intro h
  obtain ⟨-, -, -, hall | hall, -⟩ := share_eq_ok.mp h
  · exact hleft (hall d hd)
  · exact hright (hall c hc)

/-! ## The text -/

/-- The text of shared columns, behind the text of the chain. -/
theorem sql_shared {j : Join} (hnone : j.constraint = none) (columns : List Column) :
    ({ j with constraint := some (.shared columns) } : Join).toRelation.sql =
      j.toRelation.sql ++ " USING (".toList ++ (bareNames columns ++ [')']) := by
  have hbefore : j.toRelation.sql =
      j.left.sql ++ ' ' :: j.kind.sql.toList ++ ' ' :: identifier j.right.name := by
    rw [toRelation, Relation.sql, hnone]
    exact List.append_nil _
  have hafter : ({ j with constraint := some (.shared columns) } : Join).toRelation.sql =
      j.left.sql ++ ' ' :: j.kind.sql.toList ++ ' ' :: identifier j.right.name
        ++ (" USING (".toList ++ bareNames columns ++ [')']) := rfl
  rw [hbefore, hafter, List.append_assoc " USING (".toList, ← List.append_assoc]

theorem filters_shared {j : Join} (hnone : j.constraint = none) (columns : List Column) :
    ({ j with constraint := some (.shared columns) } : Join).toRelation.filters =
      j.toRelation.filters := by
  simp [toRelation, Relation.filters, hnone, JoinConstraint.filter?]

end Join

theorem bareNames_eq (columns : List Column) :
    bareNames columns = separated ", " ((columns.map Column.name).map identifier) := by
  rw [List.map_map]
  rfl

/-- The names that are written for columns are read as their names, in their order. -/
theorem readNames_bareNames {columns : List Column} (h : columns ≠ []) (rest : List Char) :
    Reader.readNames (bareNames columns ++ ')' :: rest) = some (columns.map Column.name, rest) := by
  rw [bareNames_eq]
  exact Reader.readNames_separated (by simpa using h) rest

/-- The columns that a join shares are accepted exactly if it is not natural, there is one, their
names are distinct, they come all from the table directly left of the join or all from its right
table, and there is no constraint yet; else the first of these rules that is broken is reported. The
table directly left is the first one of a join of two tables, and the right one of the join before in
longer chains. Columns of both sides are never accepted together, nor is one of another table. An
accepted list changes nothing but the constraint: behind the text of the chain it names exactly the
columns in their order, and all parameters and placeholders are as before. -/
theorem share_follows_rules (j : Join) (columns : List Column) :
    (∀ j', j.share columns = .ok j' ↔
      j.kind.isNatural = false ∧ columns ≠ [] ∧ (columns.map Column.name).Nodup ∧
        j.OneSided columns ∧ j.constraint = none ∧
        j' = { j with constraint := some (.shared columns) }) ∧
    (∀ e, j.share columns = .error e ↔ FirstBroken (j.sharedRules columns) e) ∧
    ((∀ (t : Table) (kind : JoinKind) (right : Table), (t.join kind right).left.rightmost = t) ∧
      (∀ (kind : JoinKind) (right : Table), (j.join kind right).left.rightmost = j.right) ∧
      ∃ before, j.tables = before ++ [j.left.rightmost.id, j.right.id]) ∧
    (∀ c ∈ columns, ∀ d ∈ columns, c.table ≠ j.right.id → d.table ≠ j.left.rightmost.id →
      ∀ j', j.share columns ≠ .ok j') ∧
    ∀ j', j.share columns = .ok j' →
      (∃ list, j'.toRelation.sql = j.toRelation.sql ++ " USING (".toList ++ list ∧
        Reader.readNames list = some (columns.map Column.name, [])) ∧
      j'.toRelation.filters = j.toRelation.filters ∧ j'.tables = j.tables ∧
      ∀ first, (∃ list, (j'.toRelation.number first).sql =
          (j.toRelation.number first).sql ++ " USING (".toList ++ list ∧
          Reader.readNames list = some (columns.map Column.name, [])) ∧
        indices (j'.toRelation.number first).sql = indices (j.toRelation.number first).sql := by
  refine ⟨fun j' => Join.share_eq_ok, j.share_obeys columns,
    ⟨fun _ _ _ => rfl, fun _ _ => rfl, j.exists_tables_eq⟩, ?mixed, ?accepted⟩
  case mixed =>
    intro c hc d hd hright hleft j'
    exact Join.share_ne_ok_of_mixed hc hd hright hleft
  case accepted =>
    intro j' h
    obtain ⟨-, hsome, -, -, hnone, rfl⟩ := Join.share_eq_ok.mp h
    have hnames := readNames_bareNames hsome []
    refine ⟨⟨_, Join.sql_shared hnone columns, hnames⟩, Join.filters_shared hnone columns, rfl, ?_⟩
    intro first
    constructor
    · refine ⟨_, ?_, hnames⟩
      have hnumbered := @Join.sql_shared { j with left := j.left.number first } hnone columns
      simpa [Join.toRelation, Relation.number, hnone, JoinConstraint.number] using hnumbered
    · rw [(Relation.shows_sql_number _ first).indices_eq,
        (Relation.shows_sql_number _ first).indices_eq, Join.filters_shared hnone columns]

/-- In a chain where a table comes first and last, two of its columns are shared though the table in
the middle has neither; one of them is not shared together with one of the middle table. Behind a
third table, columns of the first one are refused. -/
theorem share_follows_rules_of_repeated_table :
    let t : Table := ⟨⟨0⟩, "t", [⟨"a", .integer⟩, ⟨"b", .text⟩]⟩
    let u : Table := ⟨⟨1⟩, "u", [⟨"c", .integer⟩]⟩
    let v : Table := ⟨⟨2⟩, "v", [⟨"d", .integer⟩]⟩
    let a : Column := ⟨⟨0⟩, "t", 0, "a", .integer⟩
    let b : Column := ⟨⟨0⟩, "t", 1, "b", .text⟩
    let c : Column := ⟨⟨1⟩, "u", 0, "c", .integer⟩
    let j : Join := (t.join .inner u).join .left t
    let k : Join := (t.join .inner u).join .left v
    (∃ j', j.share [b, a] = .ok j' ∧ ∃ list,
      j'.toRelation.sql = j.toRelation.sql ++ " USING (".toList ++ list ∧
        Reader.readNames list = some (["b", "a"], [])) ∧
      j.share [a, c] = .error (.invalidJoinConstraint (.mixedTables "u" "t")) ∧
      ∀ k', k.share [b, a] ≠ .ok k' := by
  intro t u v a b c j k
  refine ⟨?_, ?_, ?_⟩
  · obtain ⟨haccepted, -, -, -, htext⟩ := share_follows_rules j [b, a]
    have hok := (haccepted _).mpr ⟨rfl, by decide, by decide, .inr (by decide), rfl, rfl⟩
    exact ⟨_, hok, (htext _ hok).1⟩
  · obtain ⟨-, hrefused, -⟩ := share_follows_rules j [a, c]
    have hmixed : ¬j.OneSided [a, c] := by
      rintro (h | h)
      · exact absurd (h a List.mem_cons_self) (by decide)
      · exact absurd (h c (List.mem_cons_of_mem a List.mem_cons_self)) (by decide)
    have hdistinct : (Rule.distinctNames [a, c]).Kept := by
      rintro e ⟨name, ⟨before, after, heq, -, hmem⟩, -⟩
      have hnodup : ([a, c].map Column.name).Nodup := by decide
      rw [heq] at hnodup
      exact (List.nodup_append.mp hnodup).2.2 name hmem name List.mem_cons_self rfl
    apply (hrefused _).mpr
    refine ⟨_, .tail ?natural (.tail ?some (.tail hdistinct (.head ?mixed))), hmixed, rfl⟩
    case natural => exact fun e hasks => hasks.1 rfl
    case some => exact fun e hasks => hasks.1 (by decide)
    case mixed => exact fun hkept => hkept _ ⟨hmixed, rfl⟩
  · obtain ⟨-, -, -, hforeign, -⟩ := share_follows_rules k [b, a]
    exact hforeign a (by decide) a (by decide) (by decide) (by decide)

end TypedQuery
