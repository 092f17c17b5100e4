import TypedQuery.Proofs.Query.Built

/-!
# Built queries stay in scope

A query is sound if no clause of it reaches outside its tables. For a selection this is said part by
part, each part against its own relation, and for a chain of joins join by join: a condition sees
the tables up to its own, and shared columns come from one of the two tables that meet there. Every
accepted call keeps a query sound, so every built query is.
-/

set_option autoImplicit false

namespace TypedQuery

/-! ## What it is to be sound -/

/-- The engine takes both numbers as signed 64-bit integers. -/
structure Limit.InRange (l : Limit) : Prop where
  count : (l.count : Int) ≤ Int64.maxValue.toInt
  offset : (l.offset : Int) ≤ Int64.maxValue.toInt

/-- The join at place `k` of a chain over the given tables: `tables[k]` stands directly left of it
and the right table of the join is `tables[k + 1]`. -/
@[mk_iff]
structure JoinStep.Sound (tables : List TableId) (k : Nat) (step : JoinStep) : Prop where
  right : tables[k + 1]? = some step.right.id
  natural : step.kind.isNatural = true → step.constraint = none
  condition : ∀ f, step.constraint = some (.condition f) →
    InScope (tables.take (k + 2)) f.columnList
  shared : ∀ columns, step.constraint = some (.shared columns) →
    (columns.map Column.name).Nodup ∧
      ((∀ c ∈ columns, some c.table = tables[k]?) ∨ ∀ c ∈ columns, c.table = step.right.id)

/-- Every join of the chain is sound at its place. -/
def Relation.Sound (r : Relation) : Prop :=
  ∀ (k : Nat) (step : JoinStep), r.steps[k]? = some step → step.Sound r.tables k

/-- One part of a selection: its clauses mention columns of its own relation only. -/
structure SelectPart.Sound (p : SelectPart) : Prop where
  relation : p.relation.Sound
  columns : InScope p.relation.tables (p.columns.map fun c => c.expr.base)
  filter : ∀ f ∈ p.filter, InScope p.relation.tables f.columnList
  groupBy : ∀ columns ∈ p.groupBy, InScope p.relation.tables columns
  having : ∀ f ∈ p.having, InScope p.relation.tables f.columnList
  orderBy : ∀ order ∈ p.orderBy, InScope p.relation.tables order.columnList
  grouped : p.having.isSome = true → p.groupBy.isSome = true
  limit : ∀ l ∈ p.limit, l.InRange

/-- The clauses of a query over a single table. -/
structure SoundOver (t : Table) (columns : List Column) (filter : Option Filter)
    (orderBy : Option OrderBy) (limit : Option Limit) : Prop where
  columns : InScope [t.id] columns
  filter : ∀ f ∈ filter, InScope [t.id] f.columnList
  orderBy : ∀ order ∈ orderBy, InScope [t.id] order.columnList
  limit : ∀ l ∈ limit, l.InRange

/-- No clause of the query reaches outside the tables that it may mention. -/
def Query.Sound : Query → Prop
  | .select q => ∀ p ∈ q.parts, p.Sound
  | .insert q => SoundOver q.table q.columns none none none
  | .update q => SoundOver q.table q.columns q.filter q.orderBy q.limit
  | .delete q => SoundOver q.table [] q.filter q.orderBy q.limit
  | .count q => SoundOver q.table [] q.filter none none

theorem Limit.inRange_mk {count offset : Nat} (hcount : count ≤ greatestLimit)
    (hoffset : offset ≤ greatestLimit) : (Limit.mk count offset).InRange := by
  have hmax : Int64.maxValue.toInt = (greatestLimit : Int) := by decide
  constructor
  · rw [hmax]
    exact Int.ofNat_le.mpr hcount
  · rw [hmax]
    exact Int.ofNat_le.mpr hoffset

/-! ## Chains of joins -/

/-- Tables further to the right do not matter to a join. -/
theorem JoinStep.sound_append {tables more : List TableId} {k : Nat} {step : JoinStep}
    (hk : k + 1 < tables.length) : step.Sound (tables ++ more) k ↔ step.Sound tables k := by
  rw [sound_iff, sound_iff, List.getElem?_append_left hk, List.getElem?_append_left (by omega),
    List.take_append_of_le_length (by omega)]

/-- Numbering the parameters of a condition changes none of its columns. -/
theorem JoinStep.Sound.number {tables : List TableId} {k : Nat} {kind : JoinKind} {right : Table}
    {constraint : Option JoinConstraint} (first : Nat)
    (h : JoinStep.Sound tables k ⟨kind, right, constraint⟩) :
    JoinStep.Sound tables k ⟨kind, right, constraint.map (JoinConstraint.number first)⟩ := by
  refine ⟨h.right, ?_, ?_, ?_⟩
  · intro hkind
    have hnone : constraint = none := h.natural hkind
    rw [hnone]
    rfl
  · intro f hf
    rcases constraint with _ | ⟨g | columns⟩
    · cases hf
    · cases hf
      rw [Filter.columnList_number]
      exact h.condition g rfl
    · cases hf
  · intro columns hcolumns
    rcases constraint with _ | ⟨g | columns'⟩
    · cases hcolumns
    · cases hcolumns
    · cases hcolumns
      exact h.shared columns rfl

namespace Relation

/-- A chain is sound if it is sound without its last join and that join is sound. -/
theorem sound_join {left : Relation} {kind : JoinKind} {right : Table}
    {constraint : Option JoinConstraint} :
    (Relation.join left kind right constraint).Sound ↔
      left.Sound ∧ JoinStep.Sound (left.tables ++ [right.id]) left.steps.length
        ⟨kind, right, constraint⟩ := by
  have hlength := left.length_tables
  constructor
  · intro h
    refine ⟨?_, h _ _ List.getElem?_concat_length⟩
    -- A join further left sees the same tables with and without the last one.
    intro k step hstep
    have hk : k < left.steps.length := (List.getElem?_eq_some_iff.mp hstep).1
    have hjoin := h k step (by rwa [steps_join, List.getElem?_append_left hk])
    exact (JoinStep.sound_append (by omega)).mp hjoin
  · rintro ⟨hleft, hlast⟩ k step hstep
    rw [steps_join] at hstep
    by_cases hk : k < left.steps.length
    · rw [List.getElem?_append_left hk] at hstep
      exact (JoinStep.sound_append (by omega)).mpr (hleft k step hstep)
    · have hbound := (List.getElem?_eq_some_iff.mp hstep).1
      rw [List.length_append, List.length_singleton] at hbound
      obtain rfl : k = left.steps.length := by omega
      rw [List.getElem?_concat_length] at hstep
      cases hstep
      exact hlast

theorem sound_table (t : Table) : (Relation.table t).Sound := nofun

theorem Sound.number {r : Relation} (h : r.Sound) (first : Nat) : (r.number first).Sound := by
  induction r with
  | table t => exact sound_table t
  | join left kind right constraint ih =>
    obtain ⟨hleft, hlast⟩ := sound_join.mp h
    refine sound_join.mpr ⟨ih hleft, ?_⟩
    rw [tables_number, length_steps_number]
    exact hlast.number _

end Relation

/-- A join that has no constraint yet is sound behind any chain. -/
theorem Relation.sound_join_none {left : Relation} (hleft : left.Sound) (kind : JoinKind)
    (right : Table) : (Relation.join left kind right none).Sound := by
  refine sound_join.mpr ⟨hleft, ?_, fun _ => rfl, nofun, nofun⟩
  rw [← left.length_tables, List.getElem?_concat_length]

/-- Every chain that accepted calls make is sound. -/
theorem Join.Built.sound {j : Join} (h : j.Built) : j.toRelation.Sound := by
  induction h with
  | first t kind right => exact Relation.sound_join_none (Relation.sound_table t) kind right
  | extend built kind right ih => exact Relation.sound_join_none ih kind right
  | @constrain j j' f built accepted ih =>
    obtain ⟨hkind, hscope, -, rfl⟩ := constrain_eq_ok.mp accepted
    obtain ⟨hleft, hlast⟩ := Relation.sound_join.mp ih
    refine Relation.sound_join.mpr ⟨hleft, hlast.right, ?_, ?_, nofun⟩
    · intro hnatural
      rw [show j.kind.isNatural = true from hnatural] at hkind
      cases hkind
    · rintro f' ⟨⟩
      rw [List.take_of_length_le (by simp [j.left.length_tables])]
      exact hscope
  | @share j j' columns built accepted ih =>
    obtain ⟨hkind, -, hnames, htables, -, rfl⟩ := share_eq_ok.mp accepted
    obtain ⟨hleft, hlast⟩ := Relation.sound_join.mp ih
    refine Relation.sound_join.mpr ⟨hleft, hlast.right, ?_, nofun, ?_⟩
    · intro hnatural
      rw [show j.kind.isNatural = true from hnatural] at hkind
      cases hkind
    · rintro columns' ⟨⟩
      have hleftmost : (j.left.tables ++ [j.right.id])[j.left.steps.length]? =
          some j.left.rightmost.id := by
        rw [List.getElem?_append_left (by rw [j.left.length_tables]; omega), j.left.tables_last]
      refine ⟨hnames, htables.imp_left ?_⟩
      intro hfrom c hc
      rw [hfrom c hc]
      exact hleftmost.symm

/-! ## Selections -/

theorem SelectPart.Sound.number {p : SelectPart} (h : p.Sound) (first : Nat) :
    (p.number first).Sound := by
  refine ⟨h.relation.number first, ?_, ?_, ?_, ?_, ?_, ?_, h.limit⟩
  · simpa [SelectPart.number] using h.columns
  · intro f hf
    obtain ⟨g, hg, rfl⟩ := Option.map_eq_some_iff.mp hf
    simpa [SelectPart.number] using h.filter g hg
  · simpa [SelectPart.number] using h.groupBy
  · intro f hf
    obtain ⟨g, hg, rfl⟩ := Option.map_eq_some_iff.mp hf
    simpa [SelectPart.number] using h.having g hg
  · simpa [SelectPart.number] using h.orderBy
  · simpa [SelectPart.number, numberClause] using h.grouped

namespace Select

/-- A selection is sound if the first part is and the others are. -/
theorem sound_iff {q : Select} :
    (Query.select q).Sound ↔ q.part.Sound ∧ ∀ p ∈ q.parts.tail, p.Sound := by
  rw [Query.Sound, parts_eq, List.forall_mem_cons]
  exact Iff.rfl

/-- A selection stays sound if its first part is replaced by a sound one. -/
theorem sound_withPart {q : Select} {p : SelectPart} (h : (Query.select q).Sound) (hp : p.Sound) :
    (Query.select (q.withPart p)).Sound := by
  rw [Query.Sound, parts_withPart]
  exact List.forall_mem_cons.mpr ⟨hp, (sound_iff.mp h).2⟩

theorem sound_of_ofRelation {relation : Relation} {columns : List ResultColumn} {q : Select}
    (hrelation : relation.Sound) (h : ofRelation relation columns = .ok q) :
    (Query.select q).Sound := by
  obtain ⟨hcolumns, rfl⟩ := ofRelation_eq_ok.mp h
  intro p hp
  obtain rfl := List.mem_singleton.mp hp
  exact ⟨hrelation, hcolumns, nofun, nofun, nofun, nofun, nofun, nofun⟩

/-- Every accepted call keeps a selection sound: what it puts into the first part was checked
against the tables of that part. -/
theorem sound_applyCall {q q' : Select} {c : Call} (h : (Query.select q).Sound)
    (hothers : ∀ op other, c = .union op other → (Query.select other).Sound)
    (haccepted : q.applyCall c = .ok q') : (Query.select q').Sound := by
  have hpart := (sound_iff.mp h).1
  cases c with
  | filter f =>
    obtain ⟨hscope, -, rfl⟩ := filter_eq_ok.mp haccepted
    refine sound_withPart h { hpart with filter := ?_ }
    rintro _ ⟨⟩
    exact hscope
  | groupBy columns =>
    obtain ⟨hscope, -, rfl⟩ := groupBy_eq_ok.mp haccepted
    refine sound_withPart h { hpart with groupBy := ?_, grouped := fun _ => rfl }
    rintro _ ⟨⟩
    exact hscope
  | having f =>
    obtain ⟨hgroups, hscope, -, rfl⟩ := having_eq_ok.mp haccepted
    refine sound_withPart h { hpart with having := ?_, grouped := fun _ => hgroups }
    rintro _ ⟨⟩
    exact hscope
  | orderBy order =>
    obtain ⟨hscope, -, rfl⟩ := orderBy_eq_ok.mp haccepted
    refine sound_withPart h { hpart with orderBy := ?_ }
    rintro _ ⟨⟩
    exact hscope
  | limit count offset =>
    obtain ⟨hcount, hoffset, -, rfl⟩ := limitOffset_eq_ok.mp haccepted
    refine sound_withPart h { hpart with limit := ?_ }
    rintro _ ⟨⟩
    exact Limit.inRange_mk hcount hoffset
  | union op other =>
    obtain ⟨-, -, part, rfl, rfl⟩ := unions_eq_ok.mp haccepted
    exact List.forall_mem_cons.mpr ⟨hpart, hothers op other rfl⟩
  | number =>
    cases haccepted
    intro p hp
    obtain ⟨p', hp', n, rfl⟩ := exists_of_mem_parts_number hp
    exact (h p' hp').number n

end Select

/-! ## Queries over a single table -/

namespace SoundOver

variable {t : Table} {columns : List Column} {filter : Option Filter} {orderBy : Option OrderBy}
  {limit : Option Limit}

theorem of_columns (h : InScope [t.id] columns) : SoundOver t columns none none none :=
  ⟨h, nofun, nofun, nofun⟩

theorem fillFilter {f : Filter} {result : Option Filter}
    (h : SoundOver t columns filter orderBy limit)
    (haccepted : TypedQuery.fillFilter t filter f = .ok result) :
    SoundOver t columns result orderBy limit := by
  obtain ⟨hscope, -, rfl⟩ := fillFilter_eq_ok.mp haccepted
  refine { h with filter := ?_ }
  rintro _ ⟨⟩
  exact hscope

theorem fillOrderBy {order : OrderBy} {result : Option OrderBy}
    (h : SoundOver t columns filter orderBy limit)
    (haccepted : TypedQuery.fillOrderBy t orderBy order = .ok result) :
    SoundOver t columns filter result limit := by
  obtain ⟨hscope, -, rfl⟩ := fillOrderBy_eq_ok.mp haccepted
  refine { h with orderBy := ?_ }
  rintro _ ⟨⟩
  exact hscope

theorem fillLimit {count offset : Nat} {result : Option Limit}
    (h : SoundOver t columns filter orderBy limit)
    (haccepted : TypedQuery.fillLimit limit count offset = .ok result) :
    SoundOver t columns filter orderBy result := by
  obtain ⟨hcount, hoffset, -, rfl⟩ := fillLimit_eq_ok.mp haccepted
  refine { h with limit := ?_ }
  rintro _ ⟨⟩
  exact Limit.inRange_mk hcount hoffset

theorem number (h : SoundOver t columns filter orderBy limit) (first : Nat) :
    SoundOver t columns (numberClause first filter) orderBy limit := by
  refine { h with filter := ?_ }
  intro f hf
  obtain ⟨g, hg, rfl⟩ := Option.map_eq_some_iff.mp hf
  rw [Filter.columnList_number]
  exact h.filter g hg

end SoundOver

theorem Update.sound_applyCall {q q' : Update} {c : Call} (h : (Query.update q).Sound)
    (haccepted : q.applyCall c = some (.ok q')) : (Query.update q').Sound := by
  cases c with
  | filter f =>
    obtain ⟨filter, hfilter, hq'⟩ := bind_eq_ok.mp (Option.some.inj haccepted)
    cases pure_eq_ok.mp hq'
    exact SoundOver.fillFilter h hfilter
  | orderBy order =>
    obtain ⟨orderBy, horder, hq'⟩ := bind_eq_ok.mp (Option.some.inj haccepted)
    cases pure_eq_ok.mp hq'
    exact SoundOver.fillOrderBy h horder
  | limit count offset =>
    obtain ⟨limit, hlimit, hq'⟩ := bind_eq_ok.mp (Option.some.inj haccepted)
    cases pure_eq_ok.mp hq'
    exact SoundOver.fillLimit h hlimit
  | number =>
    cases haccepted
    exact SoundOver.number h _
  | groupBy columns => cases haccepted
  | having f => cases haccepted
  | union op other => cases haccepted

theorem Delete.sound_applyCall {q q' : Delete} {c : Call} (h : (Query.delete q).Sound)
    (haccepted : q.applyCall c = some (.ok q')) : (Query.delete q').Sound := by
  cases c with
  | filter f =>
    obtain ⟨filter, hfilter, hq'⟩ := bind_eq_ok.mp (Option.some.inj haccepted)
    cases pure_eq_ok.mp hq'
    exact SoundOver.fillFilter h hfilter
  | orderBy order =>
    obtain ⟨orderBy, horder, hq'⟩ := bind_eq_ok.mp (Option.some.inj haccepted)
    cases pure_eq_ok.mp hq'
    exact SoundOver.fillOrderBy h horder
  | limit count offset =>
    obtain ⟨limit, hlimit, hq'⟩ := bind_eq_ok.mp (Option.some.inj haccepted)
    cases pure_eq_ok.mp hq'
    exact SoundOver.fillLimit h hlimit
  | number =>
    cases haccepted
    exact SoundOver.number h _
  | groupBy columns => cases haccepted
  | having f => cases haccepted
  | union op other => cases haccepted

theorem Count.sound_applyCall {q q' : Count} {c : Call} (h : (Query.count q).Sound)
    (haccepted : q.applyCall c = some (.ok q')) : (Query.count q').Sound := by
  cases c with
  | filter f =>
    obtain ⟨filter, hfilter, hq'⟩ := bind_eq_ok.mp (Option.some.inj haccepted)
    cases pure_eq_ok.mp hq'
    exact SoundOver.fillFilter h hfilter
  | number =>
    cases haccepted
    exact SoundOver.number h _
  | groupBy columns => cases haccepted
  | having f => cases haccepted
  | orderBy order => cases haccepted
  | limit count offset => cases haccepted
  | union op other => cases haccepted

/-! ## Built queries -/

/-- Whatever accepted calls build a query, in any order and with set operators nested to any depth,
no clause of it reaches outside its tables, and no part after the first one is sorted or limited. -/
theorem Query.Built.in_scope {q : Query} (h : q.Built) : q.Sound ∧ q.NestedPlain := by
  refine ⟨?_, h.nestedPlain⟩
  induction h with
  | ofTable accepted => exact Select.sound_of_ofRelation (Relation.sound_table _) accepted
  | ofJoin join accepted => exact Select.sound_of_ofRelation join.sound accepted
  | @insert t columns q accepted =>
    obtain ⟨⟨⟩, hscope, hq⟩ := bind_eq_ok.mp accepted
    cases pure_eq_ok.mp hq
    exact SoundOver.of_columns (checkScope_eq_ok.mp hscope)
  | insertDefault t => exact SoundOver.of_columns nofun
  | @update t columns q accepted =>
    obtain ⟨⟨⟩, hscope, hq⟩ := bind_eq_ok.mp accepted
    cases pure_eq_ok.mp hq
    exact SoundOver.of_columns (checkScope_eq_ok.mp hscope)
  | delete t => exact SoundOver.of_columns nofun
  | count t => exact SoundOver.of_columns nofun
  | @call q q' c built others accepted ih ihothers =>
    cases q with
    | select q =>
      obtain ⟨s, hs, rfl⟩ := applyCall_select_eq_ok.mp accepted
      exact Select.sound_applyCall ih ihothers hs
    | insert q => cases accepted
    | update q =>
      obtain ⟨u, hu, rfl⟩ := applyCall_update_eq_ok.mp accepted
      exact Update.sound_applyCall ih hu
    | delete q =>
      obtain ⟨d, hd, rfl⟩ := applyCall_delete_eq_ok.mp accepted
      exact Delete.sound_applyCall ih hd
    | count q =>
      obtain ⟨n, hn, rfl⟩ := applyCall_count_eq_ok.mp accepted
      exact Count.sound_applyCall ih hn

/-- A selection from a join that goes on in another selection and is limited afterwards. -/
theorem Query.in_scope_of_limited_union :
    let users : Table := ⟨⟨0⟩, "users", [⟨"id", .integer⟩]⟩
    let orders : Table := ⟨⟨1⟩, "orders", [⟨"user", .integer⟩]⟩
    let id : Column := ⟨⟨0⟩, "users", 0, "id", .integer⟩
    let user : Column := ⟨⟨1⟩, "orders", 0, "user", .integer⟩
    let chain : Relation :=
      .join (.table users) .inner orders (some (.condition (.columns .eq id user)))
    let first : SelectPart :=
      ⟨chain, [⟨.column id, .scalar⟩], none, none, none, none, some ⟨3, 0⟩⟩
    let other : SelectPart :=
      ⟨.table users, [⟨.column id, .scalar⟩], none, none, none, none, none⟩
    let q : Query := .select (.compound first .union (.simple other))
    q.Built ∧ q.Sound ∧ q.NestedPlain := by
  intro users orders id user chain first other q
  have hjoin : Join.Built
      ⟨.table users, .inner, orders, some (.condition (.columns .eq id user))⟩ :=
    .constrain (f := .columns .eq id user) (.first users .inner orders) rfl
  have hfirst : Query.Built (.select (.simple { first with limit := none })) :=
    .ofJoin hjoin (show Join.select _ first.columns = .ok _ from rfl)
  have hother : Query.Built (.select (.simple other)) :=
    .ofTable (show Table.select users other.columns = .ok _ from rfl)
  have hunion : Query.Built
      (.select (.compound { first with limit := none } .union (.simple other))) := by
    refine .call (c := .union .union (.simple other)) hfirst ?_ rfl
    rintro _ _ ⟨⟩
    exact hother
  have hlimit : q.Built := .call (c := .limit 3 0) hunion nofun rfl
  exact ⟨hlimit, hlimit.in_scope⟩

end TypedQuery
