import Mathlib.Data.List.Chain
import TypedQuery.Proofs.Engine.SetOperators

/-!
# Grouping set operators

Operands with set operators between them can be combined from the left, or nested to the right.
`Regroups` says of which operators both come to the same. There are two reasons why they may: every
two operators in a row may be regrouped, or all are `UNION` and `UNION ALL` and repetitions are
removed at both ends. Without a reason there are operands of at most one row for which the two have
different numbers of rows (`exists_fromLeft_ne_nested`); it is enough to count rows, and mostly to
know whether there are any.
-/

set_option autoImplicit false

namespace TypedQuery.Engine

section Grouping

variable {α β : Type}

/-- The operands combined from left to right. -/
def fromLeft (f : SetOperator → α → α → α) (first : α) (links : List (SetOperator × α)) : α :=
  links.foldl (fun soFar link => f link.1 soFar link.2) first

/-- Every operand combined with all that comes behind it. -/
def nested (f : SetOperator → α → α → α) : α → List (SetOperator × α) → α
  | first, [] => first
  | first, (op, next) :: links => f op first (nested f next links)

@[simp]
theorem fromLeft_nil (f : SetOperator → α → α → α) (a : α) : fromLeft f a [] = a := rfl

@[simp]
theorem fromLeft_cons (f : SetOperator → α → α → α) (a b : α) (op : SetOperator)
    (links : List (SetOperator × α)) :
    fromLeft f a ((op, b) :: links) = fromLeft f (f op a b) links := rfl

/-- What is known of operands, if it is known of combined ones from that. -/
theorem map_fromLeft {f : SetOperator → α → α → α} {f' : SetOperator → β → β → β} {g : α → β}
    (hg : ∀ op a b, g (f op a b) = f' op (g a) (g b)) (a : α) (links : List (SetOperator × α)) :
    g (fromLeft f a links) = fromLeft f' (g a) (links.map (Prod.map id g)) := by
  induction links generalizing a with
  | nil => rfl
  | cons link links ih =>
    rw [fromLeft_cons, ih, hg]
    rfl

theorem map_nested {f : SetOperator → α → α → α} {f' : SetOperator → β → β → β} {g : α → β}
    (hg : ∀ op a b, g (f op a b) = f' op (g a) (g b)) (a : α) (links : List (SetOperator × α)) :
    g (nested f a links) = nested f' (g a) (links.map (Prod.map id g)) := by
  induction links generalizing a with
  | nil => rfl
  | cons link links ih => simp [nested, ih, hg, Prod.map]

end Grouping

/-- Whether two set operators in a row may be grouped either way. -/
def regroup : SetOperator → SetOperator → Bool
  | .union, .union | .unionAll, .unionAll | .intersect, .intersect | .intersect, .except => true
  | _, _ => false

/-- `UNION` and `UNION ALL`. -/
def isUnion : SetOperator → Bool
  | .union | .unionAll => true
  | .intersect | .except => false

/-- Whether it is all the same if operands with these operators between them are combined from the
left or nested. -/
def Regroups (ops : List SetOperator) : Prop :=
  ops.IsChain (fun op next => regroup op next = true) ∨
    (∀ op ∈ ops, isUnion op = true) ∧ ops.head? = some .union ∧ ops.getLast? = some .union

/-! ## Operators that may be regrouped -/

/-- Four pairs of operators may be grouped either way. -/
theorem combine_regroup {op next : SetOperator} (h : regroup op next = true) (s t u : Traversal) :
    combine next (combine op s t) u = combine op s (combine next t u) := by
  cases op <;> cases next <;> cases h
  · simp [combine_union, append_assoc]
  · exact append_assoc s t u
  · exact combine_intersect_intersect s t u
  · exact combine_intersect_except s t u

theorem fromLeft_eq_nested_of_isChain {first : Traversal} {links : List (SetOperator × Traversal)}
    (h : (links.map Prod.fst).IsChain fun op next => regroup op next = true) :
    fromLeft combine first links = nested combine first links := by
  -- The first operand stays apart, since it is combined with more and more.
  have hfirst : ∀ (op : SetOperator) (s t : Traversal) (links : List (SetOperator × Traversal)),
      (op :: links.map Prod.fst).IsChain (fun op next => regroup op next = true) →
      fromLeft combine (combine op s t) links = combine op s (nested combine t links) := by
    intro op s t links h
    induction links generalizing op s t with
    | nil => rfl
    | cons link links ih =>
      obtain ⟨next, u⟩ := link
      obtain ⟨hpair, hrest⟩ := List.isChain_cons_cons.mp h
      calc fromLeft combine (combine next (combine op s t) u) links
          = combine next (combine op s t) (nested combine u links) := ih next _ u hrest
        _ = combine op s (combine next t (nested combine u links)) := combine_regroup hpair s t _
  cases links with
  | nil => rfl
  | cons link links => exact hfirst link.1 first link.2 links h

/-- The operands one after the other, with all repetitions. -/
def appended (first : Traversal) (links : List (SetOperator × Traversal)) : Traversal :=
  links.foldl (fun soFar link => soFar.append link.2) first

/-- Behind other operands the distinct rows of a nest of unions are those of all its operands. -/
theorem distinct_append_nested {links : List (SetOperator × Traversal)}
    (h : ∀ op ∈ links.map Prod.fst, isUnion op = true) (s t : Traversal) :
    distinct (s.append (nested combine t links)) = distinct (appended (s.append t) links) := by
  induction links generalizing s t with
  | nil => rfl
  | cons link links ih =>
    obtain ⟨op, u⟩ := link
    obtain ⟨hop, hlinks⟩ := List.forall_mem_cons.mp h
    have hinner : distinct (s.append (combine op t (nested combine u links))) =
        distinct (s.append (t.append (nested combine u links))) := by
      cases op with
      | union => rw [combine_union, distinct_append_distinct]
      | unionAll => rfl
      | intersect => cases hop
      | except => cases hop
    calc distinct (s.append (combine op t (nested combine u links)))
        = distinct ((s.append t).append (nested combine u links)) := by rw [hinner, append_assoc]
      _ = distinct (appended ((s.append t).append u) links) := ih hlinks _ u

/-- What matters of a first operand is the distinct rows, if only those of the whole are asked for. -/
theorem distinct_appended_congr {s s' : Traversal} (h : distinct s = distinct s')
    (links : List (SetOperator × Traversal)) :
    distinct (appended s links) = distinct (appended s' links) := by
  induction links generalizing s s' with
  | nil => exact h
  | cons link links ih =>
    refine ih ?_
    rw [← distinct_distinct_append, h, distinct_distinct_append]

/-- The distinct rows of unions from left to right are those of all operands. -/
theorem distinct_fromLeft {links : List (SetOperator × Traversal)}
    (h : ∀ op ∈ links.map Prod.fst, isUnion op = true) (s : Traversal) :
    distinct (fromLeft combine s links) = distinct (appended s links) := by
  induction links generalizing s with
  | nil => rfl
  | cons link links ih =>
    obtain ⟨op, t⟩ := link
    obtain ⟨hop, hlinks⟩ := List.forall_mem_cons.mp h
    have hstep : distinct (combine op s t) = distinct (s.append t) := by
      cases op with
      | union => rw [combine_union, distinct_distinct]
      | unionAll => rfl
      | intersect => cases hop
      | except => cases hop
    exact (ih hlinks _).trans (distinct_appended_congr hstep links)

theorem fromLeft_eq_nested_of_unions {first : Traversal} {links : List (SetOperator × Traversal)}
    (hall : ∀ op ∈ links.map Prod.fst, isUnion op = true)
    (hhead : (links.map Prod.fst).head? = some .union)
    (hlast : (links.map Prod.fst).getLast? = some .union) :
    fromLeft combine first links = nested combine first links := by
  have hnested : nested combine first links = distinct (appended first links) := by
    cases links with
    | nil => cases hhead
    | cons link links =>
      obtain ⟨op, t⟩ := link
      obtain rfl : op = .union := Option.some.inj hhead
      rw [nested, combine_union, distinct_append_nested (List.forall_mem_cons.mp hall).2]
      rfl
  have hleft : fromLeft combine first links = distinct (fromLeft combine first links) := by
    obtain rfl | ⟨init, ⟨op, t⟩, rfl⟩ := links.eq_nil_or_concat'
    · cases hhead
    · obtain rfl : op = .union := by simpa using hlast
      rw [fromLeft, List.foldl_append, List.foldl_cons, List.foldl_nil, combine_union,
        distinct_distinct]
  rw [hleft, distinct_fromLeft hall, hnested]

/-- Operands with operators between them that regroup are combined to the same either way. -/
theorem Regroups.fromLeft_eq_nested {first : Traversal} {links : List (SetOperator × Traversal)}
    (h : Regroups (links.map Prod.fst)) :
    fromLeft combine first links = nested combine first links := by
  rcases h with hchain | ⟨hall, hhead, hlast⟩
  · exact fromLeft_eq_nested_of_isChain hchain
  · exact fromLeft_eq_nested_of_unions hall hhead hlast

/-! ## Operators that may not: whether there are rows -/

/-- Whether a row is in the combination of two results, by whether it is in them. -/
def among : SetOperator → Bool → Bool → Bool
  | .union, a, b | .unionAll, a, b => a || b
  | .intersect, a, b => a && b
  | .except, a, b => a && !b

/-- What may stand behind an operator without changing whether a row is there. -/
def spare : SetOperator → Bool
  | .intersect => true
  | _ => false

@[simp]
theorem among_spare (op : SetOperator) (a : Bool) : among op a (spare op) = a := by
  cases op <;> cases a <;> rfl

/-- Operands that do not change whether a row is there. -/
def spares (ops : List SetOperator) : List (SetOperator × Bool) := ops.map fun op => (op, spare op)

@[simp]
theorem map_fst_spares (ops : List SetOperator) : (spares ops).map Prod.fst = ops := by
  simp [spares, Function.comp_def]

@[simp]
theorem fromLeft_spares (a : Bool) (ops : List SetOperator) :
    fromLeft among a (spares ops) = a := by
  induction ops with
  | nil => rfl
  | cons op ops ih => simpa [spares] using ih

@[simp]
theorem nested_spares (a : Bool) (ops : List SetOperator) : nested among a (spares ops) = a := by
  induction ops generalizing a with
  | nil => rfl
  | cons op ops ih =>
    show among op a (nested among (spare op) (spares ops)) = a
    rw [ih, among_spare]

/-- Whether a row is there does not depend on how two operators in a row are grouped. -/
def Associates (op next : SetOperator) : Prop :=
  ∀ a b c, among next (among op a b) c = among op a (among next b c)

instance (op next : SetOperator) : Decidable (Associates op next) :=
  inferInstanceAs (Decidable (∀ a b c, among next (among op a b) c = among op a (among next b c)))

/-- In front of an operator that can be regrouped with the next there is an operand that changes
nothing. -/
theorem Associates.exists_among {op next : SetOperator} (h : Associates op next) :
    ∃ a, ∀ b, among op a b = b := by
  cases op with
  | union => exact ⟨false, by decide⟩
  | unionAll => exact ⟨false, by decide⟩
  | intersect => exact ⟨true, by decide⟩
  | except => cases next <;> exact absurd h (by decide)

/-- If two operators in a row do not associate, it shows in whether a row is there: the operands
around the three that show it change nothing. -/
theorem exists_among_ne {ops : List SetOperator} (h : ¬ops.IsChain Associates) :
    ∃ a links, links.map Prod.fst = ops ∧ fromLeft among a links ≠ nested among a links := by
  induction ops with
  | nil => exact absurd List.IsChain.nil h
  | cons op ops ih =>
    cases ops with
    | nil => exact absurd (List.IsChain.singleton op) h
    | cons next rest =>
      by_cases hpair : Associates op next
      · have hrest : ¬(next :: rest).IsChain Associates := fun hrest =>
          h (List.isChain_cons_cons.mpr ⟨hpair, hrest⟩)
        obtain ⟨a, ha⟩ := hpair.exists_among
        obtain ⟨b, links, hlinks, hne⟩ := ih hrest
        refine ⟨a, (op, b) :: links, by simp [hlinks], ?_⟩
        rwa [fromLeft_cons, nested, ha, ha]
      · obtain ⟨a, b, c, hne⟩ : ∃ a b c,
            among next (among op a b) c ≠ among op a (among next b c) := by
          simpa only [Associates, not_forall] using hpair
        refine ⟨a, (op, b) :: (next, c) :: spares rest, by simp, ?_⟩
        simpa [nested] using hne

/-! ## Operators that may not: how often -/

/-- How often a row is in the combination of two results, by how often it is in them. -/
def times : SetOperator → Nat → Nat → Nat
  | .union, m, n => min 1 (m + n)
  | .unionAll, m, n => m + n
  | .intersect, m, n => if n = 0 then 0 else min 1 m
  | .except, m, n => if n = 0 then min 1 m else 0

theorem decide_times_pos (op : SetOperator) (m n : Nat) :
    decide (0 < times op m n) = among op (decide (0 < m)) (decide (0 < n)) := by
  cases op <;> by_cases hm : m = 0 <;> by_cases hn : n = 0 <;>
    simp [times, among, hm, hn, Nat.pos_iff_ne_zero]

/-- A row with the number one. -/
def oneRow : ResultRow := [.integer 1]

/-- A result that has this row a number of times, and nothing else. -/
def copies (n : Nat) : Traversal := ⟨List.replicate n oneRow, none⟩

theorem containsRow_copies (n : Nat) : containsRow (copies n).rows oneRow = decide (n ≠ 0) := by
  cases n <;> simp [copies, containsRow, compareLists, Std.ReflCmp.compare_self]

/-- What a test leaves of the copies, without repetitions. -/
theorem distinctRows_filter_copies (keep : ResultRow → Bool) (n : Nat) :
    distinctRows ((copies n).rows.filter keep) =
      List.replicate (if keep oneRow then min 1 n else 0) oneRow := by
  cases h : keep oneRow <;> simp [copies, h, distinctRows_replicate]

theorem combine_copies (op : SetOperator) (m n : Nat) :
    combine op (copies m) (copies n) = copies (times op m n) := by
  cases op with
  | union =>
    have happend : (copies m).append (copies n) = copies (m + n) := by simp [copies, Stream.append]
    rw [combine_union, happend]
    exact congrArg (Stream.mk · none) (distinctRows_replicate (m + n) oneRow)
  | unionAll => simp [combine, copies, times, Stream.append]
  | intersect =>
    refine congrArg (Stream.mk · none) ((distinctRows_filter_copies _ m).trans ?_)
    rw [containsRow_copies, times]
    by_cases hn : n = 0 <;> simp [hn]
  | except =>
    refine congrArg (Stream.mk · none) ((distinctRows_filter_copies _ m).trans ?_)
    rw [containsRow_copies, times]
    by_cases hn : n = 0 <;> simp [hn]

/-- Operands in which a row is once or not at all. -/
def counted (links : List (SetOperator × Bool)) : List (SetOperator × Nat) :=
  links.map (Prod.map id Bool.toNat)

theorem map_counted (links : List (SetOperator × Bool)) :
    (counted links).map (Prod.map id fun n => decide (0 < n)) = links := by
  have hfun : (Prod.map id (fun n => decide (0 < n)) ∘ Prod.map id Bool.toNat :
      SetOperator × Bool → SetOperator × Bool) = id := by
    funext ⟨op, b⟩
    cases b <;> rfl
  rw [counted, List.map_map, hfun, List.map_id]

/-- Operands without the row. -/
def missing (ops : List SetOperator) : List (SetOperator × Bool) := ops.map fun op => (op, false)

@[simp]
theorem map_fst_missing (ops : List SetOperator) : (missing ops).map Prod.fst = ops := by
  simp [missing, Function.comp_def]

/-- Unions with what lacks a row keep how often it is there, but for removing repetitions. -/
theorem fromLeft_times_missing {ops : List SetOperator} (h : ∀ op ∈ ops, isUnion op = true)
    (m : Nat) :
    fromLeft times m (counted (missing ops)) = if .union ∈ ops then min 1 m else m := by
  induction ops generalizing m with
  | nil => rfl
  | cons op ops ih =>
    obtain ⟨hop, hops⟩ := List.forall_mem_cons.mp h
    have hcons : fromLeft times m (counted (missing (op :: ops))) =
        fromLeft times (times op m 0) (counted (missing ops)) := rfl
    rw [hcons, ih hops]
    cases op with
    | union => simp [times]
    | unionAll => simp [times]
    | intersect => cases hop
    | except => cases hop

theorem nested_times_missing {ops : List SetOperator} (h : ∀ op ∈ ops, isUnion op = true)
    (m : Nat) (hm : m ≤ 1) : nested times m (counted (missing ops)) = m := by
  induction ops generalizing m with
  | nil => rfl
  | cons op ops ih =>
    obtain ⟨hop, hops⟩ := List.forall_mem_cons.mp h
    have hcons : nested times m (counted (missing (op :: ops))) =
        times op m (nested times 0 (counted (missing ops))) := rfl
    rw [hcons, ih hops 0 (Nat.zero_le 1)]
    cases op with
    | union => simp [times, hm]
    | unionAll => rfl
    | intersect => cases hop
    | except => cases hop

/-- Unions of which some remove repetitions, but not the first or not the last: a row of two
operands is there once for one grouping and twice for the other. -/
theorem exists_times_ne_of_unions {ops : List SetOperator} (hall : ∀ op ∈ ops, isUnion op = true)
    (hsome : .union ∈ ops) (hends : ops.head? ≠ some .union ∨ ops.getLast? ≠ some .union) :
    ∃ (a : Bool) (links : List (SetOperator × Bool)), links.map Prod.fst = ops ∧
      fromLeft times a.toNat (counted links) ≠ nested times a.toNat (counted links) := by
  obtain _ | ⟨op, ops⟩ := ops
  · cases hsome
  obtain ⟨hop, hops⟩ := List.forall_mem_cons.mp hall
  cases op with
  | intersect => cases hop
  | except => cases hop
  | unionAll =>
    -- The repetition is removed from the left only: the first operand is added last otherwise.
    refine ⟨true, (.unionAll, true) :: missing ops, by simp, ?_⟩
    have hmem : .union ∈ ops := by simpa using hsome
    have hleft : fromLeft times 1 (counted ((.unionAll, true) :: missing ops)) = 1 := by
      show fromLeft times 2 (counted (missing ops)) = 1
      simp [fromLeft_times_missing hops, hmem]
    have hright : nested times 1 (counted ((.unionAll, true) :: missing ops)) = 2 := by
      show 1 + nested times 1 (counted (missing ops)) = 2
      rw [nested_times_missing hops 1 le_rfl]
    rw [Bool.toNat_true, hleft, hright]
    decide
  | union =>
    -- The repetition is removed in the nest only: the last operand is added last from the left.
    have hlast : (SetOperator.union :: ops).getLast? ≠ some .union := by simpa using hends
    obtain rfl | ⟨init, last, rfl⟩ := ops.eq_nil_or_concat'
    · exact absurd rfl hlast
    obtain ⟨hinit, hlastUnion⟩ := List.forall_mem_append.mp hops
    obtain rfl : last = .unionAll := by
      have hunion := hlastUnion last List.mem_cons_self
      cases last with
      | union =>
        rw [← List.cons_append, List.getLast?_concat] at hlast
        exact absurd rfl hlast
      | unionAll => rfl
      | intersect => cases hunion
      | except => cases hunion
    refine ⟨true, (.union, false) :: (missing init ++ [(.unionAll, true)]), by simp, ?_⟩
    have hleft : fromLeft times 1 (counted ((.union, false) :: (missing init ++ [(.unionAll, true)])))
        = 2 := by
      have happend : fromLeft times 1 (counted (missing init ++ [(.unionAll, true)])) =
          fromLeft times 1 (counted (missing init)) + 1 := by
        simp [fromLeft, counted, List.foldl_append, times]
      show fromLeft times 1 (counted (missing init ++ [(.unionAll, true)])) = 2
      rw [happend, fromLeft_times_missing hinit]
      simp
    have hright : nested times 1 (counted ((.union, false) :: (missing init ++ [(.unionAll, true)])))
        = 1 := by
      show min 1 (1 + _) = 1
      omega
    rw [Bool.toNat_true, hleft, hright]
    decide

/-- Operators that associate are unions all, or none of them is. -/
theorem isUnion_of_isChain {op : SetOperator} {ops : List SetOperator}
    (h : (op :: ops).IsChain Associates) : ∀ next ∈ op :: ops, isUnion next = isUnion op := by
  induction ops generalizing op with
  | nil => simp
  | cons next ops ih =>
    obtain ⟨hpair, hrest⟩ := List.isChain_cons_cons.mp h
    have hsame : isUnion next = isUnion op := by
      cases op <;> cases next <;> first | rfl | exact absurd hpair (by decide)
    exact List.forall_mem_cons.mpr ⟨rfl, fun other hother => (ih hrest other hother).trans hsame⟩

/-- Without a `UNION` among them they may be regrouped. -/
theorem isChain_regroup {ops : List SetOperator} (h : ops.IsChain Associates)
    (hnone : .union ∉ ops) : ops.IsChain fun op next => regroup op next = true := by
  refine List.IsChain.imp_of_mem_imp (fun op next hop hnext hpair => ?_) h
  cases op <;> cases next <;>
    first | rfl | exact absurd hop hnone | exact absurd hnext hnone | exact absurd hpair (by decide)

/-- If operators do not regroup, there are operands of at most one row such that the two ways of
combining them have a row a different number of times. -/
theorem exists_times_ne {ops : List SetOperator} (h : ¬Regroups ops) :
    ∃ (a : Bool) (links : List (SetOperator × Bool)), links.map Prod.fst = ops ∧
      fromLeft times a.toNat (counted links) ≠ nested times a.toNat (counted links) := by
  by_cases hchain : ops.IsChain Associates
  · obtain ⟨hnot, hends⟩ := not_or.mp h
    have hsome : .union ∈ ops := by
      by_contra hnone
      exact hnot (isChain_regroup hchain hnone)
    have hall : ∀ op ∈ ops, isUnion op = true := by
      cases ops with
      | nil => exact nofun
      | cons op ops =>
        have hsame := isUnion_of_isChain hchain
        have hop : isUnion op = true := (hsame .union hsome).symm
        exact fun next hnext => (hsame next hnext).trans hop
    exact exists_times_ne_of_unions hall hsome
      (not_and_or.mp fun hboth => hends ⟨hall, hboth⟩)
  · obtain ⟨a, links, hlinks, hne⟩ := exists_among_ne hchain
    refine ⟨a, links, hlinks, fun heq => hne ?_⟩
    have hcount := congrArg (fun n => decide (0 < n)) heq
    rw [map_fromLeft (g := fun n => decide (0 < n)) decide_times_pos,
      map_nested (g := fun n => decide (0 < n)) decide_times_pos, map_counted] at hcount
    cases a <;> exact hcount

end TypedQuery.Engine
