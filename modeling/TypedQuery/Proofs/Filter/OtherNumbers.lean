import TypedQuery.Proofs.Filter.Operand
import TypedQuery.Proofs.Query.Numbering
import TypedQuery.Proofs.Sql.Raising
import TypedQuery.Proofs.Statement.Running

/-!
# A filter under other numbers

The same filter is numbered from 1 on in one statement and behind the new values in another. Its text
is the same up to the numbers, which are raised (`raises_sql_number`), and so is what is bound for it
(`bindsFor_number_add`). Whether it is true depends on what is bound to its own parameters only, not
on the numbers that they bear (`isTrue_number_congr`), so a filter whose parameters are all bound is
true of the same rows in both (`BoundFrom.isTrue_eq_heldBy`).
-/

set_option autoImplicit false

namespace TypedQuery

open Sql

/-- A comparison becomes the comparison of what its sides become. -/
theorem raises_comparison {n : Nat} (op : Comparison) {left left' right right' : List Char}
    (hleft : Raises n left left') (hright : Raises n right right') :
    Raises n (left ++ ' ' :: op.sql.toList ++ ' ' :: right)
      (left' ++ ' ' :: op.sql.toList ++ ' ' :: right') := by
  have hop : Raises n (' ' :: (op.sql.toList ++ ' ' :: right))
      (' ' :: (op.sql.toList ++ ' ' :: right')) :=
    ((hright.cons (by decide)).word_append (by cases op <;> decide)).cons (by decide)
  rw [List.append_assoc, List.append_assoc, List.cons_append, List.cons_append]
  exact hleft.append hop (noDigitFirst_cons (by decide))

namespace Filter

/-! ## The text -/

/-- A filter with raised numbers is the filter numbered from a greater number on. -/
theorem raises_sql_number (f : Filter) (first n : Nat) :
    Raises n (f.number first).sql (f.number (first + n)).sql := by
  induction f generalizing first with
  | compare op expr value valueFirst =>
    have hexpr : Raises n expr.sql expr.sql := .of_shows expr.shows_sql
    cases value with
    | param p =>
      cases valueFirst with
      | true => exact raises_comparison op (raises_placeholder n first) hexpr
      | false => exact raises_comparison op hexpr (raises_placeholder n first)
    | null =>
      -- There is no placeholder to raise.
      have hshows := shows_sql_number (.compare op expr .null valueFirst) first
      exact .of_shows hshows
  | columns op left right =>
    exact .of_shows (shows_sql_number (.columns op left right) first)
  | like column pattern =>
    rw [number, number, Filter.sql, Filter.sql, List.append_assoc, List.append_assoc]
    exact (Raises.of_shows column.shows_sql).append
      ((raises_placeholder n first).word_append (by decide)) (noDigitFirst_cons (by decide))
  | logical op left right ihleft ihright =>
    have hclose : Raises n [')'] [')'] := .of_shows (shows_word (by decide))
    have hright : Raises n (' ' :: ((right.number (first + left.paramCount)).sql ++ [')']))
        (' ' :: ((right.number (first + n + left.paramCount)).sql ++ [')'])) := by
      rw [Nat.add_right_comm]
      exact ((ihright _).append hclose (noDigitFirst_cons (by decide))).cons (by decide)
    have hop := (hright.word_append (w := op.sql.toList) (by cases op <;> decide)).cons
      (c := ' ') (by decide)
    have hboth := ((ihleft first).append hop (noDigitFirst_cons (by decide))).cons
      (c := '(') (by decide)
    simpa only [number, Filter.sql, List.append_assoc, List.cons_append] using hboth

/-! ## What is bound -/

/-- The parameters of a numbered filter are its parameters with the numbers in order. -/
theorem params_number (f : Filter) (first : Nat) :
    (f.number first).params = f.params.mapIdx fun i p => { p with index := first + i } := by
  induction f generalizing first with
  | compare op expr value valueFirst =>
    cases value with
    | param p => rfl
    | null => rfl
  | columns op left right => rfl
  | like column pattern => rfl
  | logical op left right ihleft ihright =>
    rw [number, params, params, ihleft, ihright, List.mapIdx_append, length_params]
    simp only [Nat.add_left_comm, Nat.add_comm]

/-- What binding the selected parameters of a filter binds. -/
def bindsFor (f : Filter) (slots : Slots) (which : BindSelection) : List (Nat × Primitive) :=
  (f.params.filter which.includes).map fun p => (p.index, p.source.bind slots)

/-- Under raised numbers the same parameters are bound to the same values. -/
theorem bindsFor_number_add (f : Filter) (first n : Nat) (slots : Slots) (which : BindSelection) :
    (f.number (first + n)).bindsFor slots which =
      ((f.number first).bindsFor slots which).map (Prod.map (· + n) id) := by
  have hparams : (f.number (first + n)).params =
      (f.number first).params.map fun p => { p with index := p.index + n } := by
    rw [params_number, params_number]
    apply List.ext_getElem?
    intro k
    rw [List.getElem?_map, List.getElem?_mapIdx, List.getElem?_mapIdx, Option.map_map,
      Nat.add_right_comm]
    rfl
  rw [bindsFor, bindsFor, hparams, List.filter_map, List.map_map, List.map_map]
  rfl

/-- Where the parameters of a filter that is numbered from `first` on are all bound to what their
sources yield. -/
def BoundFrom (f : Filter) (slots : Slots) (first : Nat) (bindings : Engine.Bindings) : Prop :=
  ∀ k p, f.params[k]? = some p →
    bindings (first + k) = Engine.taken (p.source.bind slots).toCell

theorem bindsFor_all (f : Filter) (slots : Slots) :
    f.bindsFor slots .all = f.params.map fun p => (p.index, p.source.bind slots) := by
  rw [bindsFor, BindSelection.filter_all]

theorem mem_bindsFor_number {f : Filter} {slots : Slots} {first : Nat} {b : Nat × Primitive} :
    b ∈ (f.number first).bindsFor slots .all ↔
      ∃ k p, f.params[k]? = some p ∧ b = (first + k, p.source.bind slots) := by
  rw [bindsFor_all, params_number, List.mem_map]
  constructor
  · rintro ⟨_, hp, rfl⟩
    obtain ⟨k, hk, rfl⟩ := List.mem_mapIdx.mp hp
    exact ⟨k, f.params[k], List.getElem?_eq_getElem hk, rfl⟩
  · rintro ⟨k, p, hp, rfl⟩
    obtain ⟨hk, rfl⟩ := List.getElem?_eq_some_iff.mp hp
    exact ⟨_, List.mem_mapIdx.mpr ⟨k, hk, rfl⟩, rfl⟩

/-- Binding all parameters of a filter binds them, whatever was bound before. -/
theorem boundFrom_bindAll (f : Filter) (slots : Slots) (first : Nat) (earlier : Engine.Bindings) :
    f.BoundFrom slots first (bindAll earlier ((f.number first).bindsFor slots .all)) := by
  intro k p hp
  refine bindAll_of_mem (mem_bindsFor_number.mpr ⟨k, p, hp, rfl⟩) ?_
  rintro _ hb hk
  obtain ⟨k', p', hp', rfl⟩ := mem_bindsFor_number.mp hb
  obtain rfl : k' = k := Nat.add_left_cancel hk
  obtain rfl := Option.some.inj (hp'.symm.trans hp)
  rfl

/-- Binding what comes before the parameters of a filter does not matter to them. -/
theorem BoundFrom.bindAll {f : Filter} {slots : Slots} {first : Nat} {bindings : Engine.Bindings}
    (h : f.BoundFrom slots first bindings) {binds : List (Nat × Primitive)}
    (hbinds : ∀ b ∈ binds, b.1 < first) :
    f.BoundFrom slots first (bindAll bindings binds) := by
  intro k p hp
  rw [bindAll_of_not_mem, h k p hp]
  intro b hb
  have := hbinds b hb
  omega

/-! ## Where it is true -/

/-- A filter is true of the same groups under other numbers, if the same is bound to them. -/
theorem isTrue_number_congr {f : Filter} {first first' : Nat} {bindings bindings' : Engine.Bindings}
    (h : ∀ k < f.paramCount, bindings (first + k) = bindings' (first' + k))
    (fields : List Engine.FrameField) (group : Engine.Group) :
    Engine.isTrue fields bindings group (f.number first) =
      Engine.isTrue fields bindings' group (f.number first') := by
  induction f generalizing first first' with
  | compare op expr value valueFirst =>
    cases value with
    | param p =>
      have hvalue : bindings first = bindings' first' := h 0 Nat.zero_lt_one
      simp only [number, Engine.isTrue, hvalue]
    | null => rfl
  | columns op left right => rfl
  | like column pattern =>
    have hvalue : bindings first = bindings' first' := h 0 Nat.zero_lt_one
    simp only [number, Engine.isTrue, hvalue]
  | logical op left right ihleft ihright =>
    rw [paramCount] at h
    have hleft := ihleft fun k hk => h k (by omega)
    have hright : Engine.isTrue fields bindings group (right.number (first + left.paramCount)) =
        Engine.isTrue fields bindings' group (right.number (first' + left.paramCount)) := by
      apply ihright
      intro k hk
      rw [Nat.add_assoc, Nat.add_assoc]
      exact h (left.paramCount + k) (by omega)
    cases op with
    | and => simp only [number, Engine.isTrue, hleft, hright]
    | or => simp only [number, Engine.isTrue, hleft, hright]

/-- A filter whose parameters are all bound is true of the same groups, whatever numbers it bears and
whatever else is bound. -/
theorem BoundFrom.isTrue_eq_heldBy {f : Filter} {slots : Slots} {first : Nat}
    {bindings : Engine.Bindings} (h : f.BoundFrom slots first bindings) (first' : Nat)
    (earlier : Engine.Bindings) (fields : List Engine.FrameField) (group : Engine.Group) :
    Engine.isTrue fields bindings group (f.number first) =
      f.heldBy slots first' earlier fields group := by
  have hbound := f.boundFrom_bindAll slots first' earlier
  rw [bindsFor_all] at hbound
  apply isTrue_number_congr
  intro k hk
  rw [← length_params] at hk
  have hp : f.params[k]? = some f.params[k] := List.getElem?_eq_getElem hk
  rw [h k _ hp]
  exact (hbound k _ hp).symm

end Filter

end TypedQuery
