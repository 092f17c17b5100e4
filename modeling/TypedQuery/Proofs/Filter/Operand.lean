import TypedQuery.Filter.Operand
import TypedQuery.Proofs.Value.RoundTrip
import TypedQuery.Statement.Basic

/-!
# Narrower operands

An integer column may be compared with values of other integer types, and these are exactly the
types of less width all of whose numbers the column's type has (`IntType.mem_operandTypes_iff`). How
such a value is bound is decided by its own type and not by that of the column, so that the engine
compares the column with the number meant only if both types bind that number alike. They do as long
as the number is among the signed ones of 32 bits (`IntType.Widens.toCell_bind_eq_iff`); what is
bound for a greater one, which only `IntType.uint32` has, is less by the size of that type.

A filter sees of its values nothing but the cells that are bound for them, and so it holds of the
same rows whether a number is written narrow or wide (`Filter.SameBound.heldBy_eq`).
-/

set_option autoImplicit false

namespace TypedQuery

/-! ## Integers -/

namespace IntType

variable {narrow wide : IntType}

/-- The table of operands: besides the column's own type, the types of less width whose numbers the
column's type has. The two size types stand apart. -/
theorem mem_operandTypes_iff :
    .int narrow ∈ (ValueType.int wide).operandTypes ↔
      narrow = wide ∨ wide ≠ .intSize ∧ wide ≠ .uintSize ∧ narrow.width < wide.width ∧
        wide.least ≤ narrow.least ∧ narrow.bound ≤ wide.bound := by
  cases narrow <;> cases wide <;> decide

/-- Whether values of a type may be compared with columns of another integer type, which is then the
wider one. -/
def Widens (narrow wide : IntType) : Prop :=
  .int narrow ∈ (ValueType.int wide).operandTypes ∧ narrow ≠ wide

instance : Decidable (narrow.Widens wide) := inferInstanceAs (Decidable (_ ∧ _))

/-- A narrow type has at most 32 bits, and at most 16 if the wide one has no more than 32. -/
theorem Widens.width_le (h : narrow.Widens wide) :
    narrow.width ≤ 32 ∧ (wide.width ≤ 32 → narrow.width ≤ 16) := by
  revert h
  cases narrow <;> cases wide <;> decide

theorem toInt_wrap (t : IntType) {n : Int} (hleast : t.least ≤ n) (hbound : n < t.bound) :
    t.toInt (t.wrap n) = n := by
  unfold least at hleast
  unfold bound at hbound
  unfold toInt wrap
  split <;> rename_i hsigned
  · have hhalf : (2 ^ t.width : Nat) = 2 * 2 ^ (t.width - 1) := by cases t <;> rfl
    rw [if_pos hsigned] at hleast hbound
    rw [BitVec.toInt_ofInt, hhalf]
    apply Int.bmod_eq_of_le
    · push_cast
      omega
    · push_cast
      omega
  · rw [if_neg hsigned] at hleast hbound
    rw [BitVec.toNat_ofInt, Int.emod_eq_of_lt hleast (by exact_mod_cast hbound),
      Int.toNat_of_nonneg hleast]

/-- The number that the engine receives for an integer: the number itself, cut to the signed ones of
the width that it is bound with. -/
def boundNumber (t : IntType) (w : t.Word) : Int :=
  if t.width ≤ 32 then (t.toInt w).bmod (2 ^ 32) else (t.toInt w).bmod (2 ^ 64)

/-- What is bound for an integer is this number. -/
theorem toCell_bind_eq (t : IntType) (w : t.Word) :
    ∃ n : Int64, (t.bind w).toCell = .integer n ∧ n.toInt = t.boundNumber w := by
  unfold bind boundNumber
  split
  · exact ⟨(Int32.ofInt (t.toInt w)).toInt64, rfl,
      (Int32.toInt_toInt64 _).trans Int32.toInt_ofInt⟩
  · exact ⟨Int64.ofInt (t.toInt w), rfl, Int64.toInt_ofInt⟩

theorem toCell_bind_inj {t u : IntType} (w : t.Word) (x : u.Word) :
    (t.bind w).toCell = (u.bind x).toCell ↔ t.boundNumber w = u.boundNumber x := by
  obtain ⟨m, hm, hmnum⟩ := t.toCell_bind_eq w
  obtain ⟨n, hn, hnnum⟩ := u.toCell_bind_eq x
  rw [hm, hn, ← hmnum, ← hnnum, Cell.integer.injEq, Int64.toInt_inj]

/-- The numbers of the types of at most 32 bits, and of at most 16. -/
theorem range_of_width_le (t : IntType) (w : t.Word) :
    (t.width ≤ 32 → -2 ^ 31 ≤ t.toInt w ∧ t.toInt w < 2 ^ 32) ∧
      (t.width ≤ 16 → -2 ^ 15 ≤ t.toInt w ∧ t.toInt w < 2 ^ 16) := by
  have hleast := t.least_le_toInt w
  have hbound := t.toInt_lt_bound w
  have htype : (t.width ≤ 32 → -2 ^ 31 ≤ t.least ∧ t.bound ≤ 2 ^ 32) ∧
      (t.width ≤ 16 → -2 ^ 15 ≤ t.least ∧ t.bound ≤ 2 ^ 16) := by
    cases t <;> decide
  omega

namespace Widens

/-- The wide type has the numbers of the narrow one. -/
theorem toInt_wrap (h : narrow.Widens wide) (w : narrow.Word) :
    wide.toInt (wide.wrap (narrow.toInt w)) = narrow.toInt w := by
  obtain ⟨-, -, -, hleast, hbound⟩ := (mem_operandTypes_iff.mp h.1).resolve_left h.2
  exact wide.toInt_wrap (hleast.trans (narrow.least_le_toInt w))
    ((narrow.toInt_lt_bound w).trans_le hbound)

/-- A number of the narrow type is bound as the number that its 32 bits stand for with a sign. -/
theorem boundNumber_narrow (h : narrow.Widens wide) (w : narrow.Word) :
    narrow.boundNumber w =
      if narrow.toInt w < 2 ^ 31 then narrow.toInt w else narrow.toInt w - 2 ^ 32 := by
  obtain ⟨hlow, hhigh⟩ := (narrow.range_of_width_le w).1 h.width_le.1
  rw [boundNumber, if_pos h.width_le.1]
  split
  · exact Int.bmod_eq_of_le (by omega) (by omega)
  -- the highest of the 32 bits is taken for a sign
  · exact (Int.bmod_eq_iff (by decide)).mpr ⟨by omega, by omega, ⟨-1, by omega⟩⟩

/-- Written in the wide type, the same number is bound as it is. -/
theorem boundNumber_wide (h : narrow.Widens wide) (w : narrow.Word) :
    wide.boundNumber (wide.wrap (narrow.toInt w)) = narrow.toInt w := by
  obtain ⟨hnarrow, hnarrower⟩ := h.width_le
  rw [boundNumber, h.toInt_wrap]
  split <;> rename_i hwidth
  · obtain ⟨hlow, hhigh⟩ := (narrow.range_of_width_le w).2 (hnarrower hwidth)
    exact Int.bmod_eq_of_le (by omega) (by omega)
  · obtain ⟨hlow, hhigh⟩ := (narrow.range_of_width_le w).1 hnarrow
    exact Int.bmod_eq_of_le (by omega) (by omega)

/-- A number is bound alike in both types exactly if it is among the signed ones of 32 bits. -/
theorem toCell_bind_eq_iff (h : narrow.Widens wide) (w : narrow.Word) :
    (narrow.bind w).toCell = (wide.bind (wide.wrap (narrow.toInt w))).toCell ↔
      narrow.toInt w < 2 ^ 31 := by
  rw [toCell_bind_inj, h.boundNumber_narrow, h.boundNumber_wide]
  split <;> omega

/-- Only one narrow type has greater numbers, and only columns of 64 bits take it. -/
theorem eq_uint32 (h : narrow.Widens wide) {w : narrow.Word} (hw : 2 ^ 31 ≤ narrow.toInt w) :
    narrow = .uint32 ∧ wide.width = 64 := by
  have hbound := narrow.toInt_lt_bound w
  have htypes : narrow.bound ≤ 2 ^ 31 ∨ narrow = .uint32 ∧ wide.width = 64 := by
    revert h
    cases narrow <;> cases wide <;> decide
  exact htypes.resolve_left (by omega)

end Widens

end IntType

/-! ## Operands -/

namespace Operand

variable {t : ValueType} {slots : Slots}

/-- Whether an operand gives a comparison the number `w`: the operand is the number itself, or it is
a value that is present, or a slot that holds the number now. -/
inductive Gives (slots : Slots) {u : IntType} (w : u.Word) : Operand t → Prop
  | plain (admitted : t.admits (.int u) = true) : Gives slots w (.value (.int u) w admitted)
  | present (admitted : t.admits (.optional (.int u)) = true) :
    Gives slots w (.value (.optional (.int u)) (some w) admitted)
  | slot (id : SlotId) (admitted : t.admitsSlot (.int u) = true)
    (holds : slots[id.index]? = some (.filled (.int u) w)) :
    Gives slots w (.slot (.int u) id admitted)

/-- The cell that is bound for an operand; there is none for the literal NULL. -/
def cell? (slots : Slots) (o : Operand t) : Option Cell :=
  match o.comparand with
  | .null => none
  | .param p => some (p.source.bind slots).toCell

/-- An operand is bound as the number that it gives, in the type that the number has. -/
theorem Gives.comparand {u : IntType} {w : u.Word} {o : Operand t} (h : o.Gives slots w) :
    ∃ source, o.comparand = .param (.ofSource source) ∧ source.bind slots = u.bind w := by
  cases h with
  | plain admitted => exact ⟨_, rfl, rfl⟩
  | present admitted => exact ⟨_, rfl, rfl⟩
  | slot id admitted holds =>
    refine ⟨_, rfl, ?_⟩
    change ((slots[id.index]?).map Slot.bind).getD .null = u.bind w
    rw [holds]
    rfl

theorem Gives.cell? {u : IntType} {w : u.Word} {o : Operand t} (h : o.Gives slots w) :
    o.cell? slots = some (u.bind w).toCell := by
  obtain ⟨source, hcomparand, hbind⟩ := h.comparand
  rw [Operand.cell?, hcomparand]
  exact congrArg (fun p : Primitive => some p.toCell) hbind

/-- A column that always has a value is not compared with a value that may be missing. -/
theorem not_admits_optional (u wide : IntType) :
    (ValueType.int wide).admits (.optional (.int u)) = false := by
  cases wide <;> simp [ValueType.admits, ValueType.operandTypes]

/-- An operand gives a comparison only numbers of the types in the table. -/
theorem Gives.mem_operandTypes {u wide : IntType} {w : u.Word} {o : Operand t}
    (ht : t = .int wide ∨ t = .optional (.int wide)) (h : o.Gives slots w) :
    .int u ∈ (ValueType.int wide).operandTypes := by
  rcases ht with rfl | rfl
  · cases h with
    | plain admitted => exact List.contains_iff_mem.mp admitted
    | present admitted => rw [not_admits_optional] at admitted; cases admitted
    | slot id admitted holds => exact List.contains_iff_mem.mp admitted
  · cases h with
    | plain admitted => exact List.contains_iff_mem.mp admitted
    | present admitted => exact List.contains_iff_mem.mp admitted
    | slot id admitted holds => exact List.contains_iff_mem.mp admitted

/-- An operand of a narrower type than the column's, and another one that gives the same number in
the type of the column. -/
structure Widening (slots : Slots) (narrow wide : IntType) (w : narrow.Word) (o p : Operand t) :
    Prop where
  type : t = .int wide ∨ t = .optional (.int wide)
  ne : narrow ≠ wide
  gives : o.Gives slots w
  givesWide : p.Gives slots (wide.wrap (narrow.toInt w))

namespace Widening

variable {narrow wide : IntType} {w : narrow.Word} {o p : Operand t}

theorem widens (h : Widening slots narrow wide w o p) : narrow.Widens wide :=
  ⟨h.gives.mem_operandTypes h.type, h.ne⟩

theorem cell?_eq_iff (h : Widening slots narrow wide w o p) :
    o.cell? slots = p.cell? slots ↔ narrow.toInt w < 2 ^ 31 := by
  rw [h.gives.cell?, h.givesWide.cell?, Option.some_inj]
  exact h.widens.toCell_bind_eq_iff w

/-- A greater number is bound as one that is less by the size of its type. -/
theorem cell?_of_le (h : Widening slots narrow wide w o p) (hw : 2 ^ 31 ≤ narrow.toInt w) :
    ∃ n : Int64, o.cell? slots = some (.integer n) ∧ n.toInt = narrow.toInt w - 2 ^ 32 := by
  obtain ⟨n, hcell, hn⟩ := narrow.toCell_bind_eq w
  rw [h.widens.boundNumber_narrow, if_neg (by omega)] at hn
  exact ⟨n, by rw [h.gives.cell?, hcell], hn⟩

end Widening

end Operand

/-! ## Filters -/

namespace Filter

/-- Whether a filter is true for a group of rows in a statement that numbers its parameters from
`first` on and that binds all of them over what was bound `earlier`. -/
def heldBy (slots : Slots) (first : Nat) (earlier : Engine.Bindings)
    (fields : List Engine.FrameField) (group : Engine.Group) (f : Filter) :
    Except Engine.Fault Bool :=
  let numbered := f.number first
  Engine.isTrue fields
    (bindAll earlier (numbered.params.map fun p => (p.index, p.source.bind slots))) group numbered

/-- Whether two filters are the same up to their values, for which the same cells are bound. -/
inductive SameBound (slots : Slots) : Filter → Filter → Prop
  | compare (op : Comparison) (expr : Expr) (p q : Param) (valueFirst : Bool)
    (same : (p.source.bind slots).toCell = (q.source.bind slots).toCell) :
    SameBound slots (.compare op expr (.param p) valueFirst)
      (.compare op expr (.param q) valueFirst)
  | refl (f : Filter) : SameBound slots f f
  | logical (op : Connective) {left right left' right' : Filter}
    (hleft : SameBound slots left left') (hright : SameBound slots right right') :
    SameBound slots (.logical op left right) (.logical op left' right')

namespace SameBound

variable {slots : Slots} {f g : Filter}

theorem paramCount_eq (h : f.SameBound slots g) : f.paramCount = g.paramCount := by
  induction h with
  | compare op expr p q valueFirst same => rfl
  | refl f => rfl
  | logical op hleft hright ihleft ihright => rw [paramCount, paramCount, ihleft, ihright]

/-- Numbered from the same number on, both filters bind the same cells to the same parameters. -/
theorem cells_eq (h : f.SameBound slots g) (first : Nat) :
    ((f.number first).params.map fun p => (p.index, (p.source.bind slots).toCell)) =
      (g.number first).params.map fun p => (p.index, (p.source.bind slots).toCell) := by
  induction h generalizing first with
  | compare op expr p q valueFirst same =>
    simp only [number, params, List.map_cons, List.map_nil, same]
  | refl f => rfl
  | logical op hleft hright ihleft ihright =>
    simp only [number, params, List.map_append, ihleft, ihright, hleft.paramCount_eq]

/-- Whatever is bound, both filters are true of the same groups. -/
theorem isTrue_eq (h : f.SameBound slots g) (first : Nat) (fields : List Engine.FrameField)
    (bindings : Engine.Bindings) (group : Engine.Group) :
    Engine.isTrue fields bindings group (f.number first) =
      Engine.isTrue fields bindings group (g.number first) := by
  induction h generalizing first with
  | compare op expr p q valueFirst same => rfl
  | refl f => rfl
  | logical op hleft hright ihleft ihright =>
    cases op <;> simp only [number, Engine.isTrue, ihleft, ihright, hleft.paramCount_eq]

theorem heldBy_eq (h : f.SameBound slots g) (first : Nat) (earlier : Engine.Bindings)
    (fields : List Engine.FrameField) (group : Engine.Group) :
    f.heldBy slots first earlier fields group = g.heldBy slots first earlier fields group := by
  have hbindings : ∀ f : Filter,
      bindAll earlier ((f.number first).params.map fun p => (p.index, p.source.bind slots)) =
        ((f.number first).params.map fun p => (p.index, (p.source.bind slots).toCell)).foldl
          (fun b (index, cell) => b.set index cell) earlier := by
    intro f
    rw [bindAll, List.foldl_map, List.foldl_map]
  simp only [heldBy, hbindings, h.cells_eq first, h.isTrue_eq]

end SameBound

/-- Whether the second filter is the first one with some of its numbers written in the types of
their columns, each of them among the signed ones of 32 bits. -/
inductive Widened (slots : Slots) : Filter → Filter → Prop
  | compare (op : Comparison) {t : ValueType} (e : TypedExpr t) {narrow wide : IntType}
    {w : narrow.Word} {o p : Operand t} (valueFirst : Bool)
    (widening : Operand.Widening slots narrow wide w o p) (small : narrow.toInt w < 2 ^ 31) :
    Widened slots (.compare op e.expr o.comparand valueFirst)
      (.compare op e.expr p.comparand valueFirst)
  | refl (f : Filter) : Widened slots f f
  | logical (op : Connective) {left right left' right' : Filter} (hleft : Widened slots left left')
    (hright : Widened slots right right') :
    Widened slots (.logical op left right) (.logical op left' right')

/-- Writing such numbers in wider types leaves what is bound for them as it is. -/
theorem Widened.sameBound {slots : Slots} {f g : Filter} (h : f.Widened slots g) :
    f.SameBound slots g := by
  induction h with
  | refl f => exact .refl f
  | logical op hleft hright ihleft ihright => exact .logical op ihleft ihright
  | @compare op t e narrow wide w o p valueFirst widening small =>
    obtain ⟨source, hsource, hbind⟩ := widening.gives.comparand
    obtain ⟨source', hsource', hbind'⟩ := widening.givesWide.comparand
    rw [hsource, hsource']
    refine .compare op e.expr _ _ valueFirst ?_
    change (source.bind slots).toCell = (source'.bind slots).toCell
    rw [hbind, hbind']
    exact (widening.widens.toCell_bind_eq_iff w).mpr small

end Filter

/-- A narrower operand is bound like its widened value, which is the same number, exactly if the
number is among the signed ones of 32 bits. Every other number is one of `IntType.uint32` compared
with a column of 64 bits, and what is bound for it is less by the size of that type. Filters hold of
the same rows if some of the former numbers in them are widened. -/
theorem Operand.bound_as_widened_iff (slots : Slots) :
    (∀ {t : ValueType} {narrow wide : IntType} (w : narrow.Word) (o p : Operand t),
      Widening slots narrow wide w o p →
        wide.toInt (wide.wrap (narrow.toInt w)) = narrow.toInt w ∧
        (o.cell? slots = p.cell? slots ↔ narrow.toInt w < 2 ^ 31) ∧
        (2 ^ 31 ≤ narrow.toInt w → narrow = .uint32 ∧ wide.width = 64 ∧
          ∃ n : Int64, o.cell? slots = some (.integer n) ∧ n.toInt = narrow.toInt w - 2 ^ 32)) ∧
    ∀ f g : Filter, f.Widened slots g → ∀ first earlier fields group,
      f.heldBy slots first earlier fields group = g.heldBy slots first earlier fields group := by
  refine ⟨?operand, ?filter⟩
  case operand =>
    intro t narrow wide w o p h
    refine ⟨h.widens.toInt_wrap w, h.cell?_eq_iff, fun hw => ?_⟩
    obtain ⟨hnarrow, hwide⟩ := h.widens.eq_uint32 hw
    exact ⟨hnarrow, hwide, h.cell?_of_le hw⟩
  case filter =>
    intro f g h first earlier fields group
    exact h.sameBound.heldBy_eq first earlier fields group

namespace Visits

/-- A column of 64 bits. -/
def total : TypedColumn (.int .int64) := ⟨⟨⟨1⟩, "visits", 0, "total", .integer⟩, by decide⟩

def fields : List Engine.FrameField := [⟨"visits", "total", some .integer, false⟩]

def row (n : Int64) : Engine.Group := .ofRow [.ok (.integer n)]

def narrow (n : BitVec 32) : Operand (.int .int64) := .value (.int .uint32) n (by decide)

def wide (n : BitVec 64) : Operand (.int .int64) := .value (.int .int64) n (by decide)

/-- Whether the column has the value of the operand in a row. -/
def found (slots : Slots) (o : Operand (.int .int64)) (n : Int64) : Except Engine.Fault Bool :=
  (total.toExpr.compare .eq o).heldBy slots 1 .none fields (row n)

theorem widening (n : BitVec 32) :
    Operand.Widening [] .uint32 .int64 n (narrow n)
      (wide (IntType.int64.wrap (IntType.uint32.toInt n))) where
  type := .inl rfl
  ne := by decide
  gives := .plain _
  givesWide := .plain _

/-- The greatest number that both types bind alike is found by either. -/
theorem bound_as_widened_iff_of_greatest :
    (narrow 2147483647).cell? [] = (wide 2147483647).cell? [] ∧
      found [] (narrow 2147483647) 2147483647 = found [] (wide 2147483647) 2147483647 ∧
      found [] (wide 2147483647) 2147483647 = .ok true := by
  have h := widening 2147483647
  have hsmall : IntType.uint32.toInt 2147483647 < 2 ^ 31 := by decide
  obtain ⟨hoperand, hfilter⟩ := Operand.bound_as_widened_iff []
  refine ⟨(hoperand _ _ _ h).2.1.mpr hsmall, ?_, by decide +kernel⟩
  exact hfilter _ _ (.compare .eq total.toExpr false h hsmall) 1 .none fields _

/-- A number beyond these is not found in the row that has it, but in one that has a negative
number; widened, it is found where it is. -/
theorem narrow_operand_misses_row :
    IntType.int64.toInt (IntType.int64.wrap (IntType.uint32.toInt 4294967295)) = 4294967295 ∧
      (narrow 4294967295).cell? [] ≠ (wide 4294967295).cell? [] ∧
      found [] (wide 4294967295) 4294967295 = .ok true ∧
      found [] (narrow 4294967295) 4294967295 = .ok false ∧
      found [] (narrow 4294967295) (-1) = .ok true := by
  refine ⟨by decide, by decide, ?_, ?_, ?_⟩ <;> decide +kernel

end Visits

end TypedQuery
