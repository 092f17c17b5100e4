import Mathlib.Data.List.Nodup
import TypedQuery.Proofs.Query.Filling

/-!
# The order of calls

The clauses of a query may be given in any order. Whether a list of calls is accepted is a property
of the calls taken together, with one exception: a condition on groups has to come after the
grouping. So the outcome of a list of calls is known from that of any rearrangement of it, and the
query that comes out is the same one, clause by clause.

`Suited` collects what does not depend on the order; `Suited.applyCalls` runs the calls.
-/

set_option autoImplicit false

namespace TypedQuery

/-- A condition on groups comes before a grouping. -/
def HavingFirst (calls : List Call) : Prop :=
  ∃ f columns, [.having f, .groupBy columns].Sublist calls

namespace Query

/-- The query after calls, one after the other, up to the first that is refused. -/
def applyCalls : Query → List Call → Option (Except Error Query)
  | q, [] => some (.ok q)
  | q, c :: calls =>
    match q.applyCall c with
    | some (.ok q') => q'.applyCalls calls
    | refusal => refusal

/-- Calls are accepted if the first one is and the others are after it. -/
theorem applyCalls_cons_eq_ok {q r : Query} {c : Call} {calls : List Call} :
    q.applyCalls (c :: calls) = some (.ok r) ↔
      ∃ q', q.applyCall c = some (.ok q') ∧ q'.applyCalls calls = some (.ok r) := by
  rw [applyCalls]
  cases h : q.applyCall c with
  | none => simp
  | some outcome => cases outcome <;> simp

/-- Calls that suit a query: each fits the tables and gives an open clause, no two give the same,
and where there is a condition on groups, there are groups or a call that makes them. -/
structure Suited (q : Query) (calls : List Call) : Prop where
  fits : ∀ c ∈ calls, c.Fits q.scope
  lacks : ∀ c ∈ calls, ∃ k, c.clause? = some k ∧ q.Lacks k
  nodup : (calls.map Call.clause?).Nodup
  groups : ∀ f, Call.having f ∈ calls → q.Grouped ∨ ∃ columns, Call.groupBy columns ∈ calls

/-- A query without the grouping has no groups. -/
theorem Lacks.not_grouped {q : Query} (h : q.Lacks .groupBy) : ¬q.Grouped := by
  cases q with
  | select q => exact not_not_intro h
  | _ => exact h.elim

/-- A condition on groups is open only in a selection. -/
theorem Lacks.exists_select {q : Query} (h : q.Lacks .having) : ∃ s, q = .select s := by
  cases q with
  | select s => exact ⟨s, rfl⟩
  | _ => exact h.elim

namespace Suited

variable {q r : Query} {c : Call} {calls calls' : List Call}

/-- Whether calls suit a query does not depend on their order. -/
theorem perm (h : q.Suited calls) (hperm : calls.Perm calls') : q.Suited calls' where
  fits c hc := h.fits c (hperm.mem_iff.mpr hc)
  lacks c hc := h.lacks c (hperm.mem_iff.mpr hc)
  nodup := (hperm.map Call.clause?).nodup_iff.mp h.nodup
  groups f hf := by
    obtain hgrouped | ⟨columns, hcolumns⟩ := h.groups f (hperm.mem_iff.mpr hf)
    · exact .inl hgrouped
    · exact .inr ⟨columns, hperm.mem_iff.mp hcolumns⟩

/-- The effect of suited calls does not depend on their order either. -/
theorem foldl_put_eq (h : q.Suited calls) (hperm : calls.Perm calls') :
    calls.foldl put q = calls'.foldl put q := by
  refine hperm.foldl_eq' (fun c hc c' hc' z => ?_) q
  rcases eq_or_ne c c' with rfl | hne
  · rfl
  · have hclauses : c.clause? ≠ c'.clause? := fun heq =>
      hne (List.inj_on_of_nodup_map h.nodup hc hc' heq)
    exact put_put hclauses

/-- The calls after the first one suit the query that has its clause. -/
theorem tail (h : q.Suited (c :: calls)) : (q.put c).Suited calls := by
  obtain ⟨k, hk, hlacks⟩ := h.lacks c List.mem_cons_self
  obtain ⟨hfresh, hnodup⟩ := List.nodup_cons.mp h.nodup
  refine ⟨?_, ?_, hnodup, ?_⟩
  · intro c' hc'
    rw [scope_put]
    exact h.fits c' (List.mem_cons_of_mem c hc')
  · intro c' hc'
    obtain ⟨k', hk', hlacks'⟩ := h.lacks c' (List.mem_cons_of_mem c hc')
    have hne : c.clause? ≠ some k' := fun heq =>
      hfresh (heq.trans hk'.symm ▸ List.mem_map_of_mem hc')
    exact ⟨k', hk', (lacks_put hne).mpr hlacks'⟩
  · intro f hf
    rw [grouped_put hk hlacks]
    obtain hgrouped | ⟨columns, hcolumns⟩ := h.groups f (List.mem_cons_of_mem c hf)
    · exact .inl (.inl hgrouped)
    · rcases List.mem_cons.mp hcolumns with rfl | hrest
      · exact .inl (.inr (Option.some.inj hk).symm)
      · exact .inr ⟨columns, hrest⟩

/-- Where suited calls put a condition on groups before there are any, it comes before a grouping. -/
theorem havingFirst_cons {f : Filter} (h : q.Suited (.having f :: calls)) (hnone : ¬q.Grouped) :
    HavingFirst (.having f :: calls) := by
  obtain hgrouped | ⟨columns, hcolumns⟩ := h.groups f List.mem_cons_self
  · exact absurd hgrouped hnone
  · have hmem : Call.groupBy columns ∈ calls := by simpa using hcolumns
    exact ⟨f, columns, (List.singleton_sublist.mpr hmem).cons_cons _⟩

/-- A call that is accepted does not come before a grouping that it would have to wait for. -/
theorem havingFirst_cons_iff (h : q.Suited (c :: calls))
    (hgrouped : c.clause? = some .having → q.Grouped) :
    HavingFirst (c :: calls) ↔ HavingFirst calls := by
  constructor
  · rintro ⟨f, columns, hsub⟩
    rcases List.sublist_cons_iff.mp hsub with hsub | ⟨rest, heq, hrest⟩
    · exact ⟨f, columns, hsub⟩
    · obtain ⟨rfl, rfl⟩ := List.cons_eq_cons.mp heq
      obtain ⟨k, hk, hlacks⟩ := h.lacks (.groupBy columns)
        (List.mem_cons_of_mem _ (List.singleton_sublist.mp hrest))
      cases hk
      exact absurd (hgrouped rfl) hlacks.not_grouped
  · rintro ⟨f, columns, hsub⟩
    exact ⟨f, columns, hsub.cons c⟩

/-- Suited calls are accepted and fill their clauses, unless a condition on groups comes before the
grouping; then this is what is refused. -/
theorem applyCalls (h : q.Suited calls) :
    (¬HavingFirst calls → q.applyCalls calls = some (.ok (calls.foldl put q))) ∧
      (HavingFirst calls → q.applyCalls calls = some (.error .havingWithoutGroupBy)) := by
  induction calls generalizing q with
  | nil =>
    refine ⟨fun _ => rfl, ?_⟩
    rintro ⟨f, columns, hsub⟩
    cases hsub
  | cons c calls ih =>
    obtain ⟨k, hk, hlacks⟩ := h.lacks c List.mem_cons_self
    by_cases hgrouped : k = .having → q.Grouped
    · have hfirst : q.applyCall c = some (.ok (q.put c)) :=
        (applyCall_eq_ok hk).mpr ⟨h.fits c List.mem_cons_self, hlacks, hgrouped, rfl⟩
      have hwait : c.clause? = some .having → q.Grouped := fun hc =>
        hgrouped (Option.some.inj (hk.symm.trans hc))
      rw [h.havingFirst_cons_iff hwait, Query.applyCalls, hfirst]
      exact ih h.tail
    · obtain ⟨rfl, hnone⟩ := Classical.not_imp.mp hgrouped
      obtain ⟨s, rfl⟩ := hlacks.exists_select
      cases c with
      | having f =>
        have hrefused := applyCall_having_of_not_grouped hnone f
        refine ⟨fun hnot => absurd (h.havingFirst_cons hnone) hnot, fun _ => ?_⟩
        rw [Query.applyCalls, hrefused]
      | _ => cases hk

/-- Calls that are accepted in some order suit the query. -/
theorem of_applyCalls (hclauses : ∀ c ∈ calls, c.clause? ≠ none)
    (h : q.applyCalls calls = some (.ok r)) : q.Suited calls ∧ r = calls.foldl put q := by
  induction calls generalizing q with
  | nil =>
    cases h
    exact ⟨⟨nofun, nofun, List.nodup_nil, nofun⟩, rfl⟩
  | cons c calls ih =>
    obtain ⟨q', hfirst, hrest⟩ := applyCalls_cons_eq_ok.mp h
    obtain ⟨k, hk⟩ := Option.ne_none_iff_exists'.mp (hclauses c List.mem_cons_self)
    obtain ⟨hfits, hlacks, hgrouped, rfl⟩ := (applyCall_eq_ok hk).mp hfirst
    obtain ⟨hsuited, rfl⟩ := ih (fun c' hc' => hclauses c' (List.mem_cons_of_mem c hc')) hrest
    -- What the later calls find open was open before, and is another clause.
    have hopen : ∀ c' ∈ calls, ∃ k', c'.clause? = some k' ∧ c.clause? ≠ some k' ∧ q.Lacks k' := by
      intro c' hc'
      obtain ⟨k', hk', hlacks'⟩ := hsuited.lacks c' hc'
      have hne : c.clause? ≠ some k' := fun heq => not_lacks_put heq
        (Option.some.inj (hk.symm.trans heq) ▸ hlacks) hlacks'
      exact ⟨k', hk', hne, (lacks_put hne).mp hlacks'⟩
    refine ⟨⟨?_, ?_, ?_, ?_⟩, rfl⟩
    · refine List.forall_mem_cons.mpr ⟨hfits, fun c' hc' => ?_⟩
      have := hsuited.fits c' hc'
      rwa [scope_put] at this
    · refine List.forall_mem_cons.mpr ⟨⟨k, hk, hlacks⟩, fun c' hc' => ?_⟩
      obtain ⟨k', hk', -, hlacks'⟩ := hopen c' hc'
      exact ⟨k', hk', hlacks'⟩
    · refine List.nodup_cons.mpr ⟨fun hmem => ?_, hsuited.nodup⟩
      obtain ⟨c', hc', heq⟩ := List.mem_map.mp hmem
      obtain ⟨k', hk', hne, -⟩ := hopen c' hc'
      exact hne (heq.symm.trans hk')
    · intro f hf
      rcases List.mem_cons.mp hf with rfl | hf
      · exact .inl (hgrouped (Option.some.inj hk).symm)
      · obtain hput | ⟨columns, hcolumns⟩ := hsuited.groups f hf
        · rcases (grouped_put hk hlacks).mp hput with hput | rfl
          · exact .inl hput
          · cases c with
            | groupBy columns => exact .inr ⟨columns, List.mem_cons_self⟩
            | _ => cases hk
        · exact .inr ⟨columns, List.mem_cons_of_mem c hcolumns⟩

end Suited

/-- If calls for clauses are accepted in one order, then in every other order they make the same
query, with the same text and the same parameters, unless a condition on groups comes before the
grouping: this is refused as such, and it can happen to a selection only. -/
theorem applyCalls_of_perm {q r : Query} {calls calls' : List Call}
    (hclauses : ∀ c ∈ calls, c.clause? ≠ none) (haccepted : q.applyCalls calls = some (.ok r))
    (hperm : calls.Perm calls') :
    (¬HavingFirst calls' → q.applyCalls calls' = some (.ok r)) ∧
      (HavingFirst calls' →
        (∃ s, q = .select s) ∧ q.applyCalls calls' = some (.error .havingWithoutGroupBy)) := by
  obtain ⟨hsuited, rfl⟩ := Suited.of_applyCalls hclauses haccepted
  have hsuited' := hsuited.perm hperm
  obtain ⟨hok, hrefused⟩ := hsuited'.applyCalls
  rw [hsuited.foldl_put_eq hperm]
  refine ⟨hok, fun hfirst => ⟨?_, hrefused hfirst⟩⟩
  obtain ⟨f, columns, hsub⟩ := hfirst
  obtain ⟨k, hk, hlacks⟩ := hsuited'.lacks (.having f) (hsub.subset List.mem_cons_self)
  cases hk
  exact hlacks.exists_select

/-- A sorted count of groups with a condition: sorting may come first, but the grouping not last. -/
theorem applyCalls_of_perm_of_grouped_selection :
    let c : Column := ⟨⟨0⟩, "t", 0, "a", .integer⟩
    let part : SelectPart :=
      ⟨.table ⟨⟨0⟩, "t", [⟨"a", .integer⟩]⟩, [⟨.column c, .scalar⟩], none, none, none, none, none⟩
    let f : Filter := .compare .gt (.aggregate .count c false) (.param ⟨.slot ⟨0⟩, 0⟩) false
    let order := OrderBy.single (.column c) .descending
    let q : Query := .select (.simple part)
    let r : Query := .select (.simple { part with
      groupBy := some [c], having := some f, orderBy := some order, limit := some ⟨1, 0⟩ })
    q.applyCalls [.groupBy [c], .having f, .orderBy order, .limit 1 0] = some (.ok r) ∧
      q.applyCalls [.orderBy order, .limit 1 0, .groupBy [c], .having f] = some (.ok r) ∧
      q.applyCalls [.limit 1 0, .orderBy order, .having f, .groupBy [c]] =
        some (.error .havingWithoutGroupBy) := by
  intro c part f order q r
  have hclauses : ∀ call ∈ [Call.groupBy [c], .having f, .orderBy order, .limit 1 0],
      call.clause? ≠ none := by simp [Call.clause?]
  have haccepted : q.applyCalls [.groupBy [c], .having f, .orderBy order, .limit 1 0] =
      some (.ok r) := rfl
  refine ⟨haccepted, ?_, ?_⟩
  · have hperm := @List.perm_append_comm _ [Call.groupBy [c], .having f]
      [.orderBy order, .limit 1 0]
    refine (applyCalls_of_perm hclauses haccepted hperm).1 ?_
    rintro ⟨f', columns, hsub⟩
    simp [List.sublist_cons_iff] at hsub
  · refine ((applyCalls_of_perm hclauses haccepted (List.reverse_perm _).symm).2 ?_).2
    exact ⟨f, [c], by simp⟩

end Query

end TypedQuery
