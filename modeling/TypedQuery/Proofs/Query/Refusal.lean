import TypedQuery.Proofs.Query.Mention

/-!
# Why calls are refused

Each call that gives a query a clause is checked by a few rules, one after the other. A call is
accepted if all rules are kept, and else it is refused with the error of the first one that is broken
(`FirstBroken`), whatever holds of the rules behind it. The rules of a call are listed in this order:
there have to be groups, the columns have to be in scope, the numbers have to be small enough, the
other selection has to be plain, and the clause has to be open (`Query.rules`). A condition of a join
is checked in the same way (`Join.rules`).

That a computation reports its rules in their order is shown for the single checks, and steps put
the rules of their parts in a row (`Obeys.bind`).
-/

set_option autoImplicit false

namespace TypedQuery

/-- A rule, given by the errors that are reported where it is broken. -/
abbrev Rule := Error → Prop

namespace Rule

/-- Nothing is reported for the rule. -/
def Kept (rule : Rule) : Prop := ∀ e, ¬rule e

/-- A rule that asks for a condition. -/
def asks (condition : Prop) (error : Error) : Rule := fun e => ¬condition ∧ e = error

/-- A rule that asks for columns of the tables in scope. The table of the first other one is
reported. -/
def inScope (clause : Clause) (scope : List TableId) (columns : List Column) : Rule :=
  fun e => ∃ c, FirstFailing (fun c => c.table ∈ scope) columns c ∧
    e = .tableNotInScope clause c.tableName

end Rule

/-- The error is reported for the first rule that is broken. -/
def FirstBroken (rules : List Rule) (e : Error) : Prop :=
  ∃ rule, FirstFailing Rule.Kept rules rule ∧ rule e

/-- The rule that a clause is given once. -/
def Query.openFor (q : Query) (k : Clause) : Rule := .asks (q.Lacks k) (.clauseAlreadySet k)

/-- The rules of a call, in the order in which they are checked. -/
def Query.rules (q : Query) : Call → List Rule
  | .filter f => [.inScope .filter q.scope f.columnList, q.openFor .filter]
  | .groupBy columns => [.inScope .groupBy q.scope columns, q.openFor .groupBy]
  | .having f =>
    [.asks q.Grouped .havingWithoutGroupBy, .inScope .having q.scope f.columnList,
      q.openFor .having]
  | .orderBy order => [.inScope .orderBy q.scope order.columnList, q.openFor .orderBy]
  | .limit n m =>
    [.asks (n ≤ greatestLimit) (.limitOutOfRange .limit n),
      .asks (m ≤ greatestLimit) (.limitOutOfRange .offset m), q.openFor .limit]
  | .union _ other =>
    [.asks (other.part.orderBy = none ∧ other.part.limit = none) .invalidUnion, q.openFor .union]
  | .number => []

/-- The rules of a condition of a join, in the order in which they are checked. -/
def Join.rules (j : Join) (f : Filter) : List Rule :=
  [.asks (j.kind.isNatural = false) (.invalidJoinConstraint (.naturalOn j.kind)),
    .inScope .joinCondition j.tables f.columnList,
    .asks (j.constraint = none) (.clauseAlreadySet .joinConstraint)]

/-- The clauses that queries of a kind have. -/
def Query.clauses : Query → List Clause
  | .select _ => [.filter, .groupBy, .having, .orderBy, .limit, .union]
  | .insert _ => []
  | .update _ => [.filter, .orderBy, .limit]
  | .delete _ => [.filter, .orderBy, .limit]
  | .count _ => [.filter]

/-! ## Rules in a row -/

/-- Of two lists of rules the second counts if the first is kept. -/
theorem firstBroken_append_iff {rules rules' : List Rule} {e : Error} :
    FirstBroken (rules ++ rules') e ↔
      FirstBroken rules e ∨ (∀ rule ∈ rules, rule.Kept) ∧ FirstBroken rules' e := by
  simp only [FirstBroken, FirstFailing.append_iff, or_and_right, exists_or, and_assoc,
    exists_and_left]

/-- A single rule is broken with its error. -/
theorem firstBroken_singleton_iff {rule : Rule} {e : Error} : FirstBroken [rule] e ↔ rule e := by
  constructor
  · rintro ⟨_, hfirst, he⟩
    cases hfirst with
    | head => exact he
    | tail _ hnone => cases hnone
  · intro he
    exact ⟨rule, .head fun hkept => hkept e he, he⟩

/-- Nothing is reported if all rules are kept. -/
theorem not_firstBroken {rules : List Rule} (h : ∀ rule ∈ rules, rule.Kept) (e : Error) :
    ¬FirstBroken rules e := by
  rintro ⟨rule, hfirst, -⟩
  exact hfirst.not_forall h

/-- Something is reported if a rule is broken. -/
theorem exists_firstBroken {rules : List Rule} (h : ¬∀ rule ∈ rules, rule.Kept) :
    ∃ e, FirstBroken rules e := by
  obtain ⟨rule, hfirst⟩ := FirstFailing.exists_of_not_forall h
  have hbroken : ∃ e, rule e := by
    simpa [Rule.Kept] using hfirst.not_of_failing
  obtain ⟨e, he⟩ := hbroken
  exact ⟨e, rule, hfirst, he⟩

/-- A computation is refused with the errors that its rules report. -/
def Obeys {α : Type} (x : Except Error α) (rules : List Rule) : Prop :=
  ∀ e, x = .error e ↔ FirstBroken rules e

namespace Obeys

variable {α β : Type} {rules rules' : List Rule}

/-- A success obeys no rules. -/
theorem ok (a : α) : Obeys (.ok a) [] :=
  fun e => iff_of_false nofun (not_firstBroken (List.forall_mem_nil _) e)

/-- The rules of an accepted computation are kept. -/
theorem kept {a : α} (h : Obeys (.ok a) rules) : ∀ rule ∈ rules, rule.Kept := by
  by_contra hbroken
  obtain ⟨e, he⟩ := exists_firstBroken hbroken
  cases (h e).mpr he

/-- A single check. -/
theorem single {x : Except Error α} {rule : Rule} (h : ∀ e, x = .error e ↔ rule e) :
    Obeys x [rule] :=
  fun e => (h e).trans firstBroken_singleton_iff.symm

/-- The rules of a step come behind those of the step before it. -/
theorem bind {x : Except Error α} {f : α → Except Error β} (hx : Obeys x rules)
    (hf : ∀ a, Obeys (f a) rules') : Obeys (x >>= f) (rules ++ rules') := by
  intro e
  rw [bind_eq_error, firstBroken_append_iff, hx e]
  apply or_congr_right
  cases x with
  | error e' =>
    have hbroken : ¬∀ rule ∈ rules, rule.Kept := fun hall =>
      not_firstBroken hall e' ((hx e').mp rfl)
    exact iff_of_false nofun fun h => hbroken h.1
  | ok a =>
    rw [← hf a e]
    exact ⟨fun ⟨_, ha, h⟩ => ⟨hx.kept, Except.ok.inj ha ▸ h⟩, fun h => ⟨a, rfl, h.2⟩⟩

/-- What is made of a result does not matter to the rules. -/
theorem map {x : Except Error α} (hx : Obeys x rules) (f : α → β) : Obeys (x.map f) rules := by
  intro e
  exact map_eq_error.trans (hx e)

/-- A check before the rest of a computation. -/
theorem refuse {c : Prop} [Decidable c] {condition : Prop} (hc : c ↔ ¬condition) {error : Error}
    {x : Except Error α} (hx : Obeys x rules) :
    Obeys (if c then .error error else x) (.asks condition error :: rules) := by
  intro e
  rw [← List.singleton_append, firstBroken_append_iff, firstBroken_singleton_iff,
    List.forall_mem_singleton]
  by_cases h : c
  · have hbroken : ¬(Rule.asks condition error).Kept := fun hkept => hkept error ⟨hc.mp h, rfl⟩
    rw [if_pos h, or_iff_left fun hmore => hbroken hmore.1, Except.error.injEq]
    exact ⟨fun heq => ⟨hc.mp h, heq.symm⟩, fun hasks => hasks.2.symm⟩
  · have hkept : (Rule.asks condition error).Kept := fun e' hasks => h (hc.mpr hasks.1)
    rw [if_neg h, or_iff_right (hkept e), hx e]
    exact ⟨fun he => ⟨hkept, he⟩, fun he => he.2⟩

end Obeys

/-! ## The checks -/

/-- The column that is reported is the first one out of scope. -/
theorem firstOutOfScope_eq_some_iff {scope : List TableId} {columns : List Column} {c : Column} :
    firstOutOfScope scope columns = some c ↔
      FirstFailing (fun c => c.table ∈ scope) columns c := by
  induction columns with
  | nil => exact iff_of_false nofun nofun
  | cons d columns ih =>
    by_cases hd : d.table ∈ scope
    · have hskip : firstOutOfScope scope (d :: columns) = firstOutOfScope scope columns :=
        List.find?_cons_of_neg (by simpa using hd)
      rw [hskip, ih]
      constructor
      · exact .tail hd
      · intro h
        cases h with
        | head hnot => exact absurd hd hnot
        | tail _ h => exact h
    · have hfound : firstOutOfScope scope (d :: columns) = some d :=
        List.find?_cons_of_pos (by simpa using hd)
      rw [hfound]
      constructor
      · rintro ⟨⟩
        exact .head hd
      · intro h
        rw [h.unique (.head hd)]

/-- The check of a scope has one rule. -/
theorem obeys_checkScope (clause : Clause) (scope : List TableId) (columns : List Column) :
    Obeys (checkScope clause scope columns) [.inScope clause scope columns] := by
  apply Obeys.single
  intro e
  simp only [Rule.inScope, ← firstOutOfScope_eq_some_iff, checkScope]
  cases firstOutOfScope scope columns with
  | none => simp
  | some c => simp [eq_comm]

/-- A clause is filled once. -/
theorem obeys_fillOnce {α : Type} (clause : Clause) (present : Option α) (value : α) :
    Obeys (fillOnce clause present value) [.asks (present = none) (.clauseAlreadySet clause)] := by
  apply Obeys.single
  intro e
  cases present with
  | none => simp [fillOnce, Rule.asks]
  | some a => simp [fillOnce, Rule.asks, eq_comm]

/-- The two numbers of a limit are within their range, the count first. -/
theorem obeys_ofNats (n m : Nat) :
    Obeys (Limit.ofNats n m)
      [.asks (n ≤ greatestLimit) (.limitOutOfRange .limit n),
        .asks (m ≤ greatestLimit) (.limitOutOfRange .offset m)] := by
  unfold Limit.ofNats
  apply Obeys.refuse Nat.not_le.symm
  apply Obeys.refuse Nat.not_le.symm
  exact .ok _

/-- A filter of a change is in scope, and the first one. -/
theorem obeys_fillFilter (t : Table) (present : Option Filter) (f : Filter) :
    Obeys (fillFilter t present f)
      [.inScope .filter [t.id] f.columnList, .asks (present = none) (.clauseAlreadySet .filter)] :=
  (obeys_checkScope .filter [t.id] f.columnList).bind fun _ => obeys_fillOnce .filter present f

/-- An ordering of a change is in scope, and the first one. -/
theorem obeys_fillOrderBy (t : Table) (present : Option OrderBy) (order : OrderBy) :
    Obeys (fillOrderBy t present order)
      [.inScope .orderBy [t.id] order.columnList,
        .asks (present = none) (.clauseAlreadySet .orderBy)] :=
  (obeys_checkScope .orderBy [t.id] order.columnList).bind fun _ =>
    obeys_fillOnce .orderBy present order

/-- A limit of a change is in range, and the first one. -/
theorem obeys_fillLimit (present : Option Limit) (n m : Nat) :
    Obeys (fillLimit present n m)
      [.asks (n ≤ greatestLimit) (.limitOutOfRange .limit n),
        .asks (m ≤ greatestLimit) (.limitOutOfRange .offset m),
        .asks (present = none) (.clauseAlreadySet .limit)] :=
  (obeys_ofNats n m).bind fun l => obeys_fillOnce .limit present l

/-- A clause with columns is checked for their tables and then for being open. -/
theorem obeys_fill {α β : Type} {checked given : Clause} {scope : List TableId}
    {columns : List Column} {present : Option α} {value : α} {make : Option α → β} :
    Obeys (do
        checkScope checked scope columns
        let clause ← fillOnce given present value
        pure (make clause))
      [.inScope checked scope columns, .asks (present = none) (.clauseAlreadySet given)] :=
  (obeys_checkScope checked scope columns).bind fun _ =>
    (obeys_fillOnce given present value).bind fun a => .ok (make a)

/-! ## The calls -/

/-- A union obeys its rules. -/
theorem Select.obeys_unions (q other : Select) (op : SetOperator) :
    Obeys (q.unions op other) ((Query.select q).rules (.union op other)) := by
  have hplain : (other.part.orderBy.isSome || other.part.limit.isSome) = true ↔
      ¬(other.part.orderBy = none ∧ other.part.limit = none) := by
    simp only [Bool.or_eq_true, Option.isSome_iff_ne_none]
    tauto
  refine .refuse hplain (.single fun e => ?_)
  cases q with
  | simple part => simp [Query.openFor, Rule.asks, Query.Lacks, parts]
  | compound part op' other' =>
    have hset : ¬(Query.select (.compound part op' other')).Lacks .union := other'.parts_ne_nil
    exact ⟨fun h => ⟨hset, (Except.error.inj h).symm⟩, fun h => congrArg Except.error h.2.symm⟩

/-- A call on a selection obeys its rules. -/
theorem Select.applyCall_obeys (q : Select) (c : Call) :
    Obeys (q.applyCall c) ((Query.select q).rules c) := by
  cases c with
  | filter f => exact obeys_fill
  | groupBy columns => exact obeys_fill
  | having f =>
    have hgrouped : q.part.groupBy.isNone = true ↔ ¬(Query.select q).Grouped := by
      simp [Query.Grouped]
    exact .refuse hgrouped obeys_fill
  | orderBy order => exact obeys_fill
  | limit n m =>
    exact (obeys_ofNats n m).bind fun l => (obeys_fillOnce .limit _ l).bind fun _ => .ok _
  | union op other => exact q.obeys_unions other op
  | number => exact .ok _

/-- A call on an update obeys its rules. -/
theorem Update.applyCall_obeys {q : Update} {c : Call} {outcome : Except Error Update}
    (h : q.applyCall c = some outcome) : Obeys outcome ((Query.update q).rules c) := by
  cases c with
  | filter f =>
    obtain rfl := Option.some.inj h
    exact (obeys_fillFilter q.table q.filter f).bind fun _ => .ok _
  | orderBy order =>
    obtain rfl := Option.some.inj h
    exact (obeys_fillOrderBy q.table q.orderBy order).bind fun _ => .ok _
  | limit n m =>
    obtain rfl := Option.some.inj h
    exact (obeys_fillLimit q.limit n m).bind fun _ => .ok _
  | number =>
    obtain rfl := Option.some.inj h
    exact .ok _
  | _ => cases h

/-- A call on a deletion obeys its rules. -/
theorem Delete.applyCall_obeys {q : Delete} {c : Call} {outcome : Except Error Delete}
    (h : q.applyCall c = some outcome) : Obeys outcome ((Query.delete q).rules c) := by
  cases c with
  | filter f =>
    obtain rfl := Option.some.inj h
    exact (obeys_fillFilter q.table q.filter f).bind fun _ => .ok _
  | orderBy order =>
    obtain rfl := Option.some.inj h
    exact (obeys_fillOrderBy q.table q.orderBy order).bind fun _ => .ok _
  | limit n m =>
    obtain rfl := Option.some.inj h
    exact (obeys_fillLimit q.limit n m).bind fun _ => .ok _
  | number =>
    obtain rfl := Option.some.inj h
    exact .ok _
  | _ => cases h

/-- A call on a count obeys its rules. -/
theorem Count.applyCall_obeys {q : Count} {c : Call} {outcome : Except Error Count}
    (h : q.applyCall c = some outcome) : Obeys outcome ((Query.count q).rules c) := by
  cases c with
  | filter f =>
    obtain rfl := Option.some.inj h
    exact (obeys_fillFilter q.table q.filter f).bind fun _ => .ok _
  | number =>
    obtain rfl := Option.some.inj h
    exact .ok _
  | _ => cases h

/-- A call that queries of this kind know is refused by its rules. -/
theorem Query.applyCall_obeys {q : Query} {c : Call} {outcome : Except Error Query}
    (h : q.applyCall c = some outcome) : Obeys outcome (q.rules c) := by
  cases q with
  | select q =>
    obtain rfl := Option.some.inj h
    exact (q.applyCall_obeys c).map _
  | insert q => cases h
  | update q =>
    obtain ⟨filled, hfilled, rfl⟩ := Option.map_eq_some_iff.mp h
    exact (Update.applyCall_obeys hfilled).map _
  | delete q =>
    obtain ⟨filled, hfilled, rfl⟩ := Option.map_eq_some_iff.mp h
    exact (Delete.applyCall_obeys hfilled).map _
  | count q =>
    obtain ⟨filled, hfilled, rfl⟩ := Option.map_eq_some_iff.mp h
    exact (Count.applyCall_obeys hfilled).map _

/-- The condition of a join obeys its rules. -/
theorem Join.constrain_obeys (j : Join) (f : Filter) : Obeys (j.constrain f) (j.rules f) := by
  have hnatural : j.kind.isNatural = true ↔ ¬j.kind.isNatural = false := by simp
  exact .refuse hnatural obeys_fill

/-- Queries of a kind know the calls for their clauses. -/
theorem Query.isSome_applyCall_iff {q : Query} {c : Call} {k : Clause} (hc : c.clause? = some k) :
    (q.applyCall c).isSome = true ↔ k ∈ q.clauses := by
  cases c with
  | number => cases hc
  | _ =>
    obtain rfl := Option.some.inj hc
    cases q <;> simp [applyCall, Update.applyCall, Delete.applyCall, Count.applyCall, clauses]

/-! ## The tables of a filter -/

/-- Each item is kept once. -/
theorem nodup_eraseDups {α : Type} [DecidableEq α] (items : List α) : items.eraseDups.Nodup := by
  induction hlength : items.length using Nat.strongRecOn generalizing items with
  | _ n ih =>
    cases items with
    | nil => exact List.nodup_nil
    | cons a items =>
      rw [List.eraseDups_cons, List.nodup_cons]
      constructor
      · simp
      · have hle := List.length_filter_le (fun b => !b == a) items
        rw [List.length_cons] at hlength
        exact ih _ (by omega) _ rfl

namespace Filter

variable {f g : Filter} {t : TableId}

/-- The tables of a filter are those of its columns. -/
theorem mem_tables_iff : t ∈ f.tables ↔ ∃ c ∈ f.columnList, c.table = t := by
  simp [tables]

/-- The tables of a connective are those of its sides. -/
theorem mem_tables_logical_iff {op : Connective} :
    t ∈ (Filter.logical op f g).tables ↔ t ∈ f.tables ∨ t ∈ g.tables := by
  simp only [mem_tables_iff, columnList, List.mem_append, or_and_right, exists_or]

/-- The filter reaches outside the given tables if one of its own is not among them. -/
theorem containsTables_iff {scope : List TableId} :
    f.containsTables scope = true ↔ f.tables ⊆ scope := by
  have hnone : f.containsTables scope = true ↔ InScope scope f.columnList := by
    simp [containsTables, firstOutOfScope, InScope]
  rw [hnone]
  constructor
  · intro h t ht
    obtain ⟨c, hc, rfl⟩ := mem_tables_iff.mp ht
    exact h c hc
  · intro h c hc
    exact h (mem_tables_iff.mpr ⟨c, hc, rfl⟩)

end Filter

/-- A query takes the calls for the clauses of its kind. Such a call is accepted exactly if the
columns that it brings are in scope, its numbers are small enough and another selection is plain, the
clause is open, and a condition on groups meets groups; else the first of its rules that is broken is
reported. It is the same with a condition of a join. The tables of a filter, for which scopes are
checked, are those of its columns, each of them once. -/
theorem calls_follow_rules :
    (∀ (q : Query) (c : Call) (k : Clause), c.clause? = some k →
      ((q.applyCall c).isSome = true ↔ k ∈ q.clauses) ∧
      ∀ outcome, q.applyCall c = some outcome →
        (∀ q', outcome = .ok q' ↔
          c.Fits q.scope ∧ q.Lacks k ∧ (k = .having → q.Grouped) ∧ q' = q.put c) ∧
        ∀ e, outcome = .error e ↔ FirstBroken (q.rules c) e) ∧
    (∀ (j : Join) (f : Filter),
      (∀ j', j.constrain f = .ok j' ↔
        j.kind.isNatural = false ∧ InScope j.tables f.columnList ∧ j.constraint = none ∧
          j' = { j with constraint := some (.condition f) }) ∧
      ∀ e, j.constrain f = .error e ↔ FirstBroken (j.rules f) e) ∧
    ∀ f : Filter, (∀ scope, f.containsTables scope = true ↔ f.tables ⊆ scope) ∧ f.tables.Nodup ∧
      (∀ t, t ∈ f.tables ↔ ∃ c ∈ f.columnList, c.table = t) ∧
      ∀ op g t, t ∈ (Filter.logical op f g).tables ↔ t ∈ f.tables ∨ t ∈ g.tables := by
  refine ⟨fun q c k hc => ⟨Query.isSome_applyCall_iff hc, ?call⟩, fun j f => ⟨?accepted, ?refused⟩,
    fun f => ⟨?scope, ?once, ?mentioned, ?joined⟩⟩
  case call =>
    intro outcome houtcome
    refine ⟨fun q' => ?_, Query.applyCall_obeys houtcome⟩
    rw [← Query.applyCall_eq_ok hc, houtcome, Option.some.injEq]
  case accepted => exact fun j' => Join.constrain_eq_ok
  case refused => exact j.constrain_obeys f
  case scope => exact fun scope => Filter.containsTables_iff
  case once => exact nodup_eraseDups _
  case mentioned => exact fun t => Filter.mem_tables_iff
  case joined => exact fun op g t => Filter.mem_tables_logical_iff

/-- A filter with columns of two other tables, for a deletion that is filtered already and for a
natural join, and two numbers that are too great. -/
theorem calls_follow_rules_of_several_broken :
    let t : Table := ⟨⟨0⟩, "t", [⟨"a", .integer⟩]⟩
    let a : Column := ⟨⟨0⟩, "t", 0, "a", .integer⟩
    let b : Column := ⟨⟨1⟩, "u", 0, "b", .text⟩
    let c : Column := ⟨⟨2⟩, "v", 0, "c", .text⟩
    let f := Filter.logical .or (.columns .eq a b) (.columns .lt c a)
    let q := Query.delete ⟨t, some f, none, some ⟨1, 0⟩⟩
    let n := greatestLimit + 1
    let j : Join := t.join .naturalLeft t
    q.applyCall (.filter f) = some (.error (.tableNotInScope .filter "u")) ∧
      q.applyCall (.limit n n) = some (.error (.limitOutOfRange .limit n)) ∧
      j.constrain f = .error (.invalidJoinConstraint (.naturalOn .naturalLeft)) := by
  intro t a b c f q n j
  obtain ⟨hcalls, hjoins, -⟩ := calls_follow_rules
  refine ⟨?_, ?_, ?_⟩
  · obtain ⟨hknown, hrules⟩ := hcalls q (.filter f) .filter rfl
    obtain ⟨outcome, houtcome⟩ := Option.isSome_iff_exists.mp (hknown.mpr (by decide))
    rw [houtcome, Option.some.injEq]
    apply ((hrules outcome houtcome).2 _).mpr
    have hfirst : FirstFailing (fun c : Column => c.table ∈ q.scope) f.columnList b :=
      .tail (by decide) (.head (by decide))
    exact ⟨_, .head fun hkept => hkept _ ⟨b, hfirst, rfl⟩, b, hfirst, rfl⟩
  · obtain ⟨hknown, hrules⟩ := hcalls q (.limit n n) .limit rfl
    obtain ⟨outcome, houtcome⟩ := Option.isSome_iff_exists.mp (hknown.mpr (by decide))
    rw [houtcome, Option.some.injEq]
    apply ((hrules outcome houtcome).2 _).mpr
    have hgreat : ¬n ≤ greatestLimit := Nat.not_succ_le_self greatestLimit
    exact ⟨_, .head fun hkept => hkept _ ⟨hgreat, rfl⟩, hgreat, rfl⟩
  · apply ((hjoins j f).2 _).mpr
    have hnatural : ¬j.kind.isNatural = false := by decide
    exact ⟨_, .head fun hkept => hkept _ ⟨hnatural, rfl⟩, hnatural, rfl⟩

end TypedQuery
