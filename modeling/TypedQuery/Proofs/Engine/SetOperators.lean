import TypedQuery.Engine.Selection
import TypedQuery.Proofs.Engine.CellOrder

/-!
# Set operators

What a set operator without `ALL` yields is known from one function of its operands: for every row,
which row stands for it, namely the first one that is the same. `distinctRows` keeps exactly the rows
that stand for themselves, in their order, so two lists have the same distinct rows if the same rows
stand for all (`distinctRows_congr`), and filters and unions of distinct rows can be calculated row
by row.
-/

set_option autoImplicit false

namespace TypedQuery.Engine

open Std

/-- A row as it is kept in a result. -/
abbrev ResultRow := List Cell

/-- The row that stands for a row: the first one that is the same for the engine. -/
def representative? (rows : List ResultRow) (row : ResultRow) : Option ResultRow :=
  rows.find? fun r => compareLists r row == .eq

section Representatives

variable {rows others : List ResultRow} {a b r s : ResultRow}

theorem mem_of_representative? (h : representative? rows r = some s) :
    s ∈ rows ∧ compareLists s r = .eq :=
  ⟨List.mem_of_find?_eq_some h, by simpa using List.find?_some h⟩

theorem representative?_cons :
    representative? (a :: rows) r =
      if compareLists a r = .eq then some a else representative? rows r := by
  rw [representative?, List.find?_cons]
  split <;> simp_all [representative?]

/-- The same row stands for rows that are the same. -/
theorem representative?_congr (h : compareLists a b = .eq) :
    representative? rows a = representative? rows b := by
  unfold representative?
  congr 1
  funext r
  rw [TransCmp.congr_right h]

theorem representative?_append :
    representative? (rows ++ others) r = (representative? rows r).or (representative? others r) :=
  List.find?_append

/-- A filter that does not tell apart rows that are the same keeps what stands for them. -/
theorem representative?_filter {keep : ResultRow → Bool}
    (hkeep : ∀ a b, compareLists a b = .eq → keep a = keep b) :
    representative? (rows.filter keep) r = if keep r then representative? rows r else none := by
  have hboth : (fun s => keep s && compareLists s r == .eq) =
      fun s => keep r && compareLists s r == .eq := by
    funext s
    cases hsame : compareLists s r == .eq with
    | true => rw [hkeep s r (by simpa using hsame)]
    | false => simp
  unfold representative?
  rw [List.find?_filter]
  simp only [Bool.decide_and, Bool.decide_eq_true, hboth]
  cases keep r <;> simp

theorem containsRow_eq : containsRow rows r = (representative? rows r).isSome :=
  (List.isSome_find? ..).symm

theorem containsRow_congr (h : compareLists a b = .eq) : containsRow rows a = containsRow rows b := by
  rw [containsRow_eq, containsRow_eq, representative?_congr h]

end Representatives

/-! ## The rows without repetitions -/

/-- The first of each run of adjacent rows that are the same. -/
def firsts (rows : List ResultRow) : List ResultRow :=
  (gather (rows.map fun row => (row, row))).filterMap List.head?

theorem distinctRows_eq (rows : List ResultRow) :
    distinctRows rows = firsts (rows.mergeSort fun a b => (compareLists a b).isLE) := rfl

/-- A row joins the group behind it or begins one of its own. -/
theorem gather_cons_cons {α : Type} {entry : List Cell × α} {rest : List (List Cell × α)}
    {group : List α} {groups : List (List α)} (h : gather (entry :: rest) = group :: groups)
    (key : List Cell) (row : α) :
    gather ((key, row) :: entry :: rest) =
      if compareLists key entry.1 = .eq then (row :: group) :: groups
      else [row] :: group :: groups := by
  conv_lhs => unfold gather
  simp only [h, beq_iff_eq]

/-- The first group begins with the first row. -/
theorem exists_gather_cons {α : Type} (key : List Cell) (row : α) (rest : List (List Cell × α)) :
    ∃ group groups, gather ((key, row) :: rest) = (row :: group) :: groups := by
  cases rest with
  | nil => exact ⟨[], [], rfl⟩
  | cons entry rest =>
    obtain ⟨next, r⟩ := entry
    obtain ⟨group, groups, h⟩ := exists_gather_cons next r rest
    rw [gather_cons_cons h]
    split
    · exact ⟨_, _, rfl⟩
    · exact ⟨_, _, rfl⟩

theorem exists_firsts_cons (a : ResultRow) (rows : List ResultRow) :
    ∃ others, firsts (a :: rows) = a :: others := by
  obtain ⟨group, groups, h⟩ := exists_gather_cons a a (rows.map fun row => (row, row))
  exact ⟨groups.filterMap List.head?, by simp [firsts, h]⟩

/-- The first row is kept; the row behind it is kept if it is not the same. -/
theorem firsts_cons_cons (a b : ResultRow) (rows : List ResultRow) :
    firsts (a :: b :: rows) =
      a :: if compareLists a b = .eq then (firsts (b :: rows)).tail else firsts (b :: rows) := by
  obtain ⟨group, groups, h⟩ := exists_gather_cons b b (rows.map fun row => (row, row))
  simp only [firsts, List.map_cons, h, gather_cons_cons h]
  split <;> rfl

/-- Rows in strict order. -/
def Ascending (rows : List ResultRow) : Prop := rows.Pairwise fun a b => compareLists a b = .lt

/-- In front of sorted rows, a row displaces the ones that are the same. -/
theorem firsts_cons {a : ResultRow} {rows : List ResultRow} (hstrict : Ascending (firsts rows))
    (hle : ∀ r ∈ rows, (compareLists a r).isLE) :
    firsts (a :: rows) = a :: (firsts rows).filter fun r => compareLists a r == .lt := by
  cases rows with
  | nil => rfl
  | cons b rows =>
    obtain ⟨others, hb⟩ := exists_firsts_cons b rows
    rw [firsts_cons_cons, hb]
    rw [hb] at hstrict
    have hothers : ∀ r ∈ others, compareLists b r = .lt := (List.pairwise_cons.mp hstrict).1
    have hbelow : ∀ r ∈ others, compareLists a r = .lt := fun r hr =>
      TransCmp.lt_of_isLE_of_lt (hle b List.mem_cons_self) (hothers r hr)
    have hall : others.filter (fun r => compareLists a r == .lt) = others :=
      List.filter_eq_self.mpr fun r hr => by simp [hbelow r hr]
    rw [List.filter_cons, hall]
    cases hab : compareLists a b with
    | lt => simp
    | eq => simp
    | gt => simp [hab] at hle

/-- Of sorted rows those are kept that stand for themselves, in strict order. -/
theorem firsts_spec {rows : List ResultRow}
    (hsorted : rows.Pairwise fun a b => (compareLists a b).isLE) :
    Ascending (firsts rows) ∧ ∀ r, r ∈ firsts rows ↔ representative? rows r = some r := by
  induction rows with
  | nil => exact ⟨List.Pairwise.nil, fun r => by simp [firsts, gather, representative?]⟩
  | cons a rows ih =>
    obtain ⟨hle, hrest⟩ := List.pairwise_cons.mp hsorted
    obtain ⟨hstrict, hmem⟩ := ih hrest
    rw [firsts_cons hstrict hle]
    refine ⟨List.pairwise_cons.mpr ⟨fun r hr => ?_, hstrict.filter _⟩, fun r => ?_⟩
    · simpa using (List.mem_filter.mp hr).2
    · rw [List.mem_cons, List.mem_filter, hmem, representative?_cons]
      split
      · next hsame => simp [hsame, eq_comm]
      · next hother =>
        have hself : r ≠ a := fun heq => hother (heq ▸ ReflCmp.compare_self)
        have hlt : representative? rows r = some r → compareLists a r = .lt := by
          intro hr
          have hrle := hle r (mem_of_representative? hr).1
          cases h : compareLists a r <;> simp_all
        simp only [hself, false_or, and_iff_left_iff_imp, beq_iff_eq]
        exact hlt

/-- Rows in strict order are known from which rows there are. -/
theorem Ascending.eq_of_mem_iff {rows others : List ResultRow} (hrows : Ascending rows)
    (hothers : Ascending others) (hmem : ∀ r, r ∈ rows ↔ r ∈ others) : rows = others := by
  have hne : ∀ a b : ResultRow, compareLists a b = .lt → a ≠ b := by
    rintro a _ hlt rfl
    simp [ReflCmp.compare_self] at hlt
  have hperm : rows.Perm others :=
    (List.perm_ext_iff_of_nodup (hrows.imp (hne _ _)) (hothers.imp (hne _ _))).mpr hmem
  refine hperm.eq_of_pairwise (fun a b _ _ hab hba => ?_) hrows hothers
  exact absurd hba (OrientedCmp.not_lt_of_lt hab)

theorem pairwise_mergeSort (rows : List ResultRow) :
    (rows.mergeSort fun a b => (compareLists a b).isLE).Pairwise
      fun a b => (compareLists a b).isLE :=
  List.pairwise_mergeSort (fun _ _ _ => TransCmp.isLE_trans) isLE_total rows

/-- Sorting keeps the order of rows that are the same, and so what stands for them. -/
theorem representative?_mergeSort (rows : List ResultRow) (r : ResultRow) :
    representative? (rows.mergeSort fun a b => (compareLists a b).isLE) r =
      representative? rows r := by
  set le : ResultRow → ResultRow → Bool := fun a b => (compareLists a b).isLE with hle
  set same : ResultRow → Bool := fun s => compareLists s r == .eq with hsame
  have hpairwise : (rows.filter same).Pairwise fun a b => le a b = true := by
    refine List.pairwise_of_forall_mem_list fun a ha b hb => ?_
    have har : compareLists a r = .eq := by simpa [hsame] using (List.mem_filter.mp ha).2
    have hbr : compareLists b r = .eq := by simpa [hsame] using (List.mem_filter.mp hb).2
    have hab := TransCmp.eq_trans har (OrientedCmp.eq_symm hbr)
    simp [hle, hab]
  have hsub : (rows.filter same).Sublist (rows.mergeSort le) :=
    List.sublist_mergeSort (fun _ _ _ => TransCmp.isLE_trans) isLE_total hpairwise
      List.filter_sublist
  have hfilter : rows.filter same = (rows.mergeSort le).filter same := by
    have hlength := ((List.mergeSort_perm rows le).filter same).length_eq
    refine List.Sublist.eq_of_length ?_ hlength.symm
    simpa using hsub.filter same
  rw [representative?, representative?, ← List.head?_filter, ← List.head?_filter, ← hfilter]

/-- The distinct rows are those that stand for themselves, in strict order. -/
theorem mem_distinctRows {rows : List ResultRow} {r : ResultRow} :
    r ∈ distinctRows rows ↔ representative? rows r = some r := by
  rw [distinctRows_eq, (firsts_spec (pairwise_mergeSort rows)).2, representative?_mergeSort]

theorem ascending_distinctRows (rows : List ResultRow) : Ascending (distinctRows rows) :=
  (firsts_spec (pairwise_mergeSort rows)).1

/-- If the same rows stand for all rows, the distinct rows are the same. -/
theorem distinctRows_congr {rows others : List ResultRow}
    (h : ∀ r, representative? rows r = representative? others r) :
    distinctRows rows = distinctRows others := by
  refine (ascending_distinctRows rows).eq_of_mem_iff (ascending_distinctRows others) fun r => ?_
  rw [mem_distinctRows, mem_distinctRows, h]

/-- Among the distinct rows the same row stands for a row as among all. -/
theorem representative?_distinctRows (rows : List ResultRow) (r : ResultRow) :
    representative? (distinctRows rows) r = representative? rows r := by
  cases h : representative? rows r with
  | some s =>
    obtain ⟨-, hsr⟩ := mem_of_representative? h
    have hs : s ∈ distinctRows rows := by
      rw [mem_distinctRows, representative?_congr hsr, h]
    have hsome : (representative? (distinctRows rows) r).isSome := by
      rw [representative?, List.find?_isSome]
      exact ⟨s, hs, by simp [hsr]⟩
    obtain ⟨s', hs'⟩ := Option.isSome_iff_exists.mp hsome
    obtain ⟨hmem, hsame⟩ := mem_of_representative? hs'
    rw [mem_distinctRows, representative?_congr hsame, h] at hmem
    rw [hs', hmem]
  | none =>
    rw [representative?, List.find?_eq_none]
    intro s hs hsame
    rw [mem_distinctRows, representative?_congr (by simpa using hsame), h] at hs
    cases hs

/-! ## Combined results -/

/-- A row is among the distinct rows if it is among all. -/
theorem containsRow_distinctRows (rows : List ResultRow) (r : ResultRow) :
    containsRow (distinctRows rows) r = containsRow rows r := by
  rw [containsRow_eq, representative?_distinctRows, ← containsRow_eq]

theorem containsRow_filter {rows : List ResultRow} {keep : ResultRow → Bool}
    (hkeep : ∀ a b, compareLists a b = .eq → keep a = keep b) (r : ResultRow) :
    containsRow (rows.filter keep) r = (keep r && containsRow rows r) := by
  rw [containsRow_eq, containsRow_eq, representative?_filter hkeep]
  cases keep r <;> rfl

/-- Filters that do not tell apart rows that are the same may be applied to the operand of a filter
by which rows there are. -/
theorem distinctRows_filter_filter {keep : ResultRow → Bool}
    (hkeep : ∀ a b, compareLists a b = .eq → keep a = keep b) (xs ys : List ResultRow) :
    distinctRows ((distinctRows (xs.filter (containsRow ys))).filter keep) =
      distinctRows (xs.filter (containsRow (distinctRows (ys.filter keep)))) := by
  refine distinctRows_congr fun r => ?_
  rw [representative?_filter hkeep, representative?_distinctRows,
    representative?_filter fun _ _ => containsRow_congr,
    representative?_filter fun _ _ => containsRow_congr, containsRow_distinctRows,
    containsRow_filter hkeep]
  cases keep r <;> simp

@[simp]
theorem toRows_ofRows {α : Type} (rows : Except Fault (List α)) :
    (Stream.ofRows rows).toRows = rows := by
  cases rows <;> rfl

theorem append_assoc {α : Type} (s t u : Stream α) :
    (s.append t).append u = s.append (t.append u) := by
  obtain ⟨xs, _ | fault⟩ := s
  · obtain ⟨ys, _ | fault⟩ := t
    · simp [Stream.append]
    · rfl
  · rfl

/-- The distinct rows of a result, or its fault. -/
def distinct (t : Traversal) : Traversal := .ofRows (t.toRows.map distinctRows)

@[simp]
theorem distinct_distinct (t : Traversal) : distinct (distinct t) = distinct t := by
  unfold distinct
  rw [toRows_ofRows]
  cases t.toRows with
  | error fault => rfl
  | ok rows =>
    have hrows : distinctRows (distinctRows rows) = distinctRows rows :=
      distinctRows_congr (representative?_distinctRows rows)
    simp [Except.map, hrows]

theorem toRows_append (s t : Traversal) :
    (s.append t).toRows = s.toRows >>= fun rows => t.toRows.map (rows ++ ·) := by
  obtain ⟨xs, _ | fault⟩ := s
  · obtain ⟨ys, _ | fault⟩ := t <;> rfl
  · rfl

/-- Repetitions within what comes first or last are no matter for the distinct rows. -/
@[simp]
theorem distinct_append_distinct (s t : Traversal) :
    distinct (s.append (distinct t)) = distinct (s.append t) := by
  simp only [distinct, toRows_append, toRows_ofRows]
  cases s.toRows with
  | error fault => rfl
  | ok xs =>
    cases t.toRows with
    | error fault => rfl
    | ok ys =>
      have hrows : distinctRows (xs ++ distinctRows ys) = distinctRows (xs ++ ys) :=
        distinctRows_congr fun r => by
          simp only [representative?_append, representative?_distinctRows]
      simp [bind, Except.bind, Except.map, hrows]

@[simp]
theorem distinct_distinct_append (s t : Traversal) :
    distinct ((distinct s).append t) = distinct (s.append t) := by
  simp only [distinct, toRows_append, toRows_ofRows]
  cases s.toRows with
  | error fault => rfl
  | ok xs =>
    cases t.toRows with
    | error fault => rfl
    | ok ys =>
      have hrows : distinctRows (distinctRows xs ++ ys) = distinctRows (xs ++ ys) :=
        distinctRows_congr fun r => by
          simp only [representative?_append, representative?_distinctRows]
      simp [bind, Except.bind, Except.map, hrows]

/-- `UNION` yields the distinct rows of what `UNION ALL` yields. -/
theorem combine_union (s t : Traversal) : combine .union s t = distinct (s.append t) := by
  simp only [combine, distinct, toRows_append]
  cases s.toRows <;> cases t.toRows <;> rfl

@[simp]
theorem distinctRows_nil : distinctRows [] = [] := by
  simp [distinctRows_eq, firsts, gather]

/-- A row that is repeated is one distinct row. -/
theorem distinctRows_replicate (n : Nat) (row : ResultRow) :
    distinctRows (List.replicate n row) = List.replicate (min 1 n) row := by
  cases n with
  | zero => exact distinctRows_nil
  | succ n =>
    have hone : distinctRows (List.replicate (n + 1) row) = distinctRows [row] :=
      distinctRows_congr fun r => by
        rw [representative?, representative?, List.find?_replicate]
        cases h : compareLists row r == .eq <;> simp [h]
    rw [hone, show min 1 (n + 1) = 1 by omega]
    simp [distinctRows_eq, firsts, gather]

/-- Two `INTERSECT` may be grouped either way, with the same fault if there is one: the operands are
looked at in the same order. -/
theorem combine_intersect_intersect (s t u : Traversal) :
    combine .intersect (combine .intersect s t) u =
      combine .intersect s (combine .intersect t u) := by
  simp only [combine, toRows_ofRows]
  cases s.toRows <;> cases t.toRows <;> cases u.toRows <;>
    simp [bind, Except.bind, pure, Except.pure,
      distinctRows_filter_filter fun _ _ => containsRow_congr]

/-- An `INTERSECT` before an `EXCEPT` may too. -/
theorem combine_intersect_except (s t u : Traversal) :
    combine .except (combine .intersect s t) u = combine .intersect s (combine .except t u) := by
  simp only [combine, toRows_ofRows]
  cases s.toRows <;> cases t.toRows <;> cases u.toRows <;>
    simp [bind, Except.bind, pure, Except.pure,
      distinctRows_filter_filter fun _ _ h => congrArg not (containsRow_congr h)]

end TypedQuery.Engine
