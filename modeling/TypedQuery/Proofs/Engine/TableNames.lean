import TypedQuery.Engine.Definition
import TypedQuery.Proofs.Engine.CellOrder
import TypedQuery.Proofs.Engine.Like

/-!
# The names of tables

The engine keeps the names that begin with `sqlite_` for tables of its own. The catalogue is asked
for all others with a pattern in which the `_` stands for any character, so that it leaves out more:
the names that go on behind `sqlite` in some other way (`isInternal_eq`). What it lists is sorted by
bytes, each name once if the names of the tables are told apart (`Store.tableNames_sorted`).
-/

set_option autoImplicit false

namespace TypedQuery

namespace Engine

open Definition (isReserved)

/-! ## Names that the pattern takes for the engine's -/

/-- Whether a name is not the engine's, though the pattern for its names matches: it goes on behind
`sqlite` with another character than `_`. -/
def isOverlooked (name : String) : Bool :=
  beginsAndGoesOn "sqlite".toList name.toList && !isReserved name

theorem isInternal_eq_beginsAndGoesOn (name : String) :
    Store.isInternal name = beginsAndGoesOn "sqlite".toList name.toList := by
  have hpattern : codePoints (Utf8.encode "sqlite_%")
      = "sqlite".toList.map Char.toNat ++ [0x5F, 0x25] := by
    rw [Utf8.encode, codePoints_flatMap]
    decide
  have htext : codePoints (Utf8.encode name)
      = (name.toList.takeWhile fun c => c != '\x00').map seenPoint := codePoints_flatMap _
  have hletters : ∀ a ∈ "sqlite".toList, a.toNat ≤ 127 ∧ a ∉ ['\x00', '%', '_'] := by simp
  rw [← matchesPattern_letters hletters, ← hpattern, ← htext]
  rfl

/-- The engine's own names match, their `_` being a character like any other. -/
theorem beginsAndGoesOn_of_isReserved {name : String} (h : isReserved name = true) :
    beginsAndGoesOn "sqlite".toList name.toList = true := by
  have hfold : (name.toList.take 7).map Text.lowerAscii = "sqlite_".toList.map Text.lowerAscii := by
    simpa [isReserved, Text.sameAsciiFold] using h
  have hfirst : (name.toList.take 6).map Text.lowerAscii = "sqlite".toList.map Text.lowerAscii := by
    simpa [List.take_take] using congrArg (List.take 6) hfold
  have hnext : (name.toList[6]?).map Text.lowerAscii = some '_' := by
    rw [← List.getElem?_take_of_lt (show 6 < 7 by decide), ← List.getElem?_map, hfold]
    rfl
  obtain ⟨c, hc, hunderscore⟩ := Option.map_eq_some_iff.mp hnext
  have hzero : c ≠ '\x00' := by
    rintro rfl
    exact absurd hunderscore (by decide)
  have hgoes : ((name.toList[6]?).any fun c => c != '\x00') = true := by
    rw [hc]
    exact bne_iff_ne.mpr hzero
  exact Bool.and_eq_true_iff.mpr ⟨beq_iff_eq.mpr hfirst, hgoes⟩

/-- The pattern takes for the engine's what is, and the names that it overlooks. -/
theorem isInternal_eq (name : String) :
    Store.isInternal name = (isReserved name || isOverlooked name) := by
  rw [isInternal_eq_beginsAndGoesOn, isOverlooked]
  cases hreserved : isReserved name with
  | true => rw [beginsAndGoesOn_of_isReserved hreserved]; rfl
  | false => rw [Bool.not_false, Bool.and_true, Bool.false_or]

/-! ## Sorted names -/

/-- The order of names by their bytes. -/
def compareNames (a b : String) : Ordering := Bytes.compare (Utf8.encode a) (Utf8.encode b)

theorem compareNames_eq (a b : String) :
    compareNames a b = compare (Utf8.encode a) (Utf8.encode b) :=
  Bytes.compare_eq _ _

instance : Std.TransCmp compareNames := by
  have hbytes : compareNames = compareOn Utf8.encode :=
    funext fun a => funext fun b => compareNames_eq a b
  rw [hbytes]
  infer_instance

/-- Two names with the same bytes are the same. -/
instance : Std.LawfulEqCmp compareNames where
  eq_of_compare {a b} h := by
    rw [compareNames_eq] at h
    exact Utf8.encode_injective (Std.LawfulEqOrd.eq_of_compare h)

namespace Store

/-- The names of all tables, in the order in which they were made. -/
def names (s : Store) : List String := s.tables.map StoredTable.name

/-- The names that are not kept for the engine. -/
def userNames (s : Store) : List String := s.names.filter fun name => !isReserved name

theorem isReserved_of_mem_userNames {s : Store} {name : String} (h : name ∈ s.userNames) :
    isReserved name = false := by
  simpa using (List.mem_filter.mp h).2

/-- Listed are the names of the users' tables that are not overlooked. -/
theorem tableNames_eq (s : Store) : s.tableNames =
    (s.userNames.filter fun name => !isOverlooked name).mergeSort fun a b =>
      (compareNames a b).isLE := by
  have hlisted : s.names.filter (fun name => !isInternal name)
      = s.userNames.filter fun name => !isOverlooked name := by
    rw [userNames, List.filter_filter]
    congr 1
    funext name
    rw [isInternal_eq, Bool.not_or, Bool.and_comm]
  rw [tableNames, ← names, hlisted]
  rfl

theorem mem_tableNames {s : Store} {name : String} :
    name ∈ s.tableNames ↔ name ∈ s.userNames ∧ isOverlooked name = false := by
  rw [tableNames_eq, List.mem_mergeSort, List.mem_filter, Bool.not_eq_true']

/-- Where no two tables of users have one name, the list is strictly sorted. -/
theorem tableNames_sorted {s : Store} (h : s.userNames.Nodup) :
    s.tableNames.Pairwise fun a b => compareNames a b = .lt := by
  have hsorted : s.tableNames.Pairwise fun a b => (compareNames a b).isLE = true := by
    rw [tableNames_eq]
    exact List.pairwise_mergeSort (fun _ _ _ => Std.TransCmp.isLE_trans) isLE_total _
  have hnodup : s.tableNames.Nodup := by
    rw [tableNames_eq]
    exact (List.mergeSort_perm _ _).nodup_iff.mpr (h.filter _)
  refine (hsorted.and hnodup).imp fun {a b} ⟨hle, hne⟩ => ?_
  cases hcompare : compareNames a b with
  | lt => rfl
  | eq => exact absurd (Std.LawfulEqCmp.eq_of_compare hcompare) hne
  | gt => simp [hcompare] at hle

end Store

end Engine

end TypedQuery
