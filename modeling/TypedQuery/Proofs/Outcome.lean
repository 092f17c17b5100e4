import Mathlib.Tactic.Common

/-!
# Outcomes

A computation that may be refused is accepted exactly if each of its steps is. These lemmas take an
accepted computation apart into its accepted steps, and a refused one into those up to the refusal.

What is looked at one item after the other is refused for the first item that fails
(`FirstFailing`).
-/

set_option autoImplicit false

namespace TypedQuery

variable {ε α β : Type}

/-- A step after another is accepted if both are. -/
theorem bind_eq_ok {x : Except ε α} {f : α → Except ε β} {b : β} :
    x >>= f = .ok b ↔ ∃ a, x = .ok a ∧ f a = .ok b := by
  cases x with
  | error e => simp [bind, Except.bind]
  | ok a => simp [bind, Except.bind]

/-- A step after another is refused if the first one is, or if it is refused itself. -/
theorem bind_eq_error {x : Except ε α} {f : α → Except ε β} {e : ε} :
    x >>= f = .error e ↔ x = .error e ∨ ∃ a, x = .ok a ∧ f a = .error e := by
  cases x with
  | error e' => simp [bind, Except.bind]
  | ok a => simp [bind, Except.bind]

/-- Steps that are never refused with an error are not refused with it together. -/
theorem bind_ne_error {x : Except ε α} {f : α → Except ε β} {e : ε} (hx : x ≠ .error e)
    (hf : ∀ a, f a ≠ .error e) : x >>= f ≠ .error e := by
  intro h
  rcases bind_eq_error.mp h with h | ⟨a, -, h⟩
  · exact hx h
  · exact hf a h

/-- A result that is only renamed is accepted if the computation is. -/
theorem map_eq_ok {x : Except ε α} {f : α → β} {b : β} :
    x.map f = .ok b ↔ ∃ a, x = .ok a ∧ f a = b := by
  cases x with
  | error e => simp [Except.map]
  | ok a => simp [Except.map]

/-- A result that is only renamed is refused if the computation is. -/
theorem map_eq_error {x : Except ε α} {f : α → β} {e : ε} : x.map f = .error e ↔ x = .error e := by
  cases x with
  | error e' => simp [Except.map]
  | ok a => simp [Except.map]

/-- A computation that is refused on a condition is accepted if the condition fails and the rest is
accepted. -/
theorem refuse_eq_ok {c : Prop} [Decidable c] {e : ε} {f : α → Except ε β} {x : Except ε β}
    {b : β} : (if c then Except.error e >>= f else x) = .ok b ↔ ¬c ∧ x = .ok b := by
  by_cases h : c
  · simp [h, bind, Except.bind]
  · simp [h]

/-- Steps that are all accepted are accepted as a whole. -/
theorem mapM_eq_ok {f : α → Except ε β} {g : α → β} {items : List α}
    (h : ∀ item ∈ items, f item = .ok (g item)) : items.mapM f = .ok (items.map g) := by
  induction items with
  | nil => rfl
  | cons item items ih =>
    rw [List.forall_mem_cons] at h
    rw [List.mapM_cons, h.1, ih h.2]
    rfl

/-- Where steps are accepted as a whole, each result is that of one of them. -/
theorem of_mapM_eq_ok {f : α → Except ε β} {items : List α} {results : List β}
    (h : items.mapM f = .ok results) :
    results.length = items.length ∧ ∀ result ∈ results, ∃ item ∈ items, f item = .ok result := by
  induction items generalizing results with
  | nil =>
    obtain rfl : [] = results := Except.ok.inj h
    exact ⟨rfl, nofun⟩
  | cons item items ih =>
    rw [List.mapM_cons] at h
    obtain ⟨first, hfirst, h⟩ := bind_eq_ok.mp h
    obtain ⟨rest, hrest, h⟩ := bind_eq_ok.mp h
    obtain rfl : first :: rest = results := Except.ok.inj h
    obtain ⟨hlength, hresults⟩ := ih hrest
    refine ⟨congrArg Nat.succ hlength, List.forall_mem_cons.mpr ⟨⟨item, List.mem_cons_self, hfirst⟩, ?_⟩⟩
    intro result hresult
    obtain ⟨other, hother, heq⟩ := hresults result hresult
    exact ⟨other, List.mem_cons_of_mem item hother, heq⟩

/-- The items that pass a test which is never refused. -/
theorem filterM_map_eq_ok {test : β → Except ε Bool} {g : α → β} {keep : α → Bool} {items : List α}
    (h : ∀ item ∈ items, test (g item) = .ok (keep item)) :
    (items.map g).filterM test = .ok ((items.filter keep).map g) := by
  -- The items found so far are kept in reverse.
  have haux : ∀ found, (items.map g).filterAuxM test found =
      .ok (((items.filter keep).map g).reverse ++ found) := by
    induction items with
    | nil => exact fun found => rfl
    | cons item items ih =>
      rw [List.forall_mem_cons] at h
      intro found
      rw [List.map_cons, List.filterAuxM, h.1]
      refine (ih h.2 _).trans ?_
      cases hitem : keep item with
      | true => simp [List.filter_cons_of_pos hitem]
      | false => simp [hitem]
  rw [List.filterM, haux]
  simp [bind, Except.bind, pure, Except.pure]

/-- A finished computation is accepted with its value. -/
theorem pure_eq_ok {a b : α} : (pure a : Except ε α) = .ok b ↔ a = b := by
  simp [pure, Except.pure]

/-! ## The first failure -/

/-- An item is the first one of a list that does not have a property. -/
inductive FirstFailing (p : α → Prop) : List α → α → Prop where
  | head {a : α} {items : List α} : ¬p a → FirstFailing p (a :: items) a
  | tail {a b : α} {items : List α} : p b → FirstFailing p items a → FirstFailing p (b :: items) a

namespace FirstFailing

variable {p : α → Prop} {items more : List α} {a b : α}

theorem not_of_failing (h : FirstFailing p items a) : ¬p a := by
  induction h with
  | head ha => exact ha
  | tail _ _ ih => exact ih

/-- Where an item fails, not all have the property. -/
theorem not_forall (h : FirstFailing p items a) : ¬∀ b ∈ items, p b := by
  intro hall
  induction h with
  | head ha => exact ha (hall _ List.mem_cons_self)
  | tail _ _ ih => exact ih (List.forall_mem_cons.mp hall).2

/-- There is only one first item that fails. -/
theorem unique (h : FirstFailing p items a) (h' : FirstFailing p items b) : a = b := by
  induction h with
  | head ha =>
    cases h' with
    | head => rfl
    | tail hp _ => exact absurd hp ha
  | tail hp _ ih =>
    cases h' with
    | head hb => exact absurd hp hb
    | tail _ h' => exact ih h'

/-- If not all items have the property, there is a first one that fails. -/
theorem exists_of_not_forall (h : ¬∀ b ∈ items, p b) : ∃ a, FirstFailing p items a := by
  induction items with
  | nil => exact absurd nofun h
  | cons c items ih =>
    by_cases hc : p c
    · have hitems : ¬∀ b ∈ items, p b := fun hall => h (List.forall_mem_cons.mpr ⟨hc, hall⟩)
      obtain ⟨a, ha⟩ := ih hitems
      exact ⟨a, .tail hc ha⟩
    · exact ⟨c, .head hc⟩

/-- What comes later does not matter. -/
theorem append_right (h : FirstFailing p items a) (more : List α) :
    FirstFailing p (items ++ more) a := by
  induction h with
  | head ha => exact .head ha
  | tail hp _ ih => exact .tail hp ih

/-- Items that have the property may come before. -/
theorem append_left (hitems : ∀ b ∈ items, p b) (h : FirstFailing p more a) :
    FirstFailing p (items ++ more) a := by
  induction items with
  | nil => exact h
  | cons c items ih =>
    obtain ⟨hc, hitems⟩ := List.forall_mem_cons.mp hitems
    exact .tail hc (ih hitems)

/-- A later item comes into play only if all before it have the property. -/
theorem append_iff :
    FirstFailing p (items ++ more) a ↔
      FirstFailing p items a ∨ (∀ b ∈ items, p b) ∧ FirstFailing p more a := by
  constructor
  · intro h
    by_cases hitems : ∀ b ∈ items, p b
    · obtain ⟨b, hb⟩ := exists_of_not_forall fun hall =>
        h.not_forall (List.forall_mem_append.mpr ⟨hitems, hall⟩)
      obtain rfl := h.unique (append_left hitems hb)
      exact .inr ⟨hitems, hb⟩
    · obtain ⟨b, hb⟩ := exists_of_not_forall hitems
      obtain rfl := h.unique (hb.append_right more)
      exact .inl hb
  · rintro (h | ⟨hitems, h⟩)
    · exact h.append_right more
    · exact h.append_left hitems

end FirstFailing

end TypedQuery
