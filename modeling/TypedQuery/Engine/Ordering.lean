import TypedQuery.Engine.Affinity
import TypedQuery.Engine.Stream
import TypedQuery.Filter.Basic

/-!
# Ordering rows

Rows are sorted by the values of the terms of an ordering, and rows that agree in all of them keep
their order. With a limit only as many rows are kept as it can leave, so a row that comes too late
in the order is given up before it is computed.
-/

set_option autoImplicit false

namespace TypedQuery.Engine

/-- The order of two rows of values: the first difference decides. -/
def compareLists : List Cell → List Cell → Ordering := List.compareLex compareCells

/-- Puts the rows with equal keys together. The rows have to be sorted by their keys. -/
def gather {α : Type} : List (List Cell × α) → List (List α)
  | [] => []
  | (key, row) :: rest =>
    match rest, gather rest with
    | (next, _) :: _, group :: groups =>
      if compareLists key next == .eq then (row :: group) :: groups else [row] :: group :: groups
    | _, groups => [row] :: groups

/-- The order of two values by a term of an ordering. -/
def compareTerm (term : OrderTerm) (a b : Cell) : Ordering :=
  let byValue :=
    match term.direction with
    | .ascending => compareCells a b
    | .descending => compareCells b a
  match term.nulls with
  | none => byValue
  | some placement =>
    let aFirst : Ordering := if placement == .first then .lt else .gt
    if a == .null && b == .null then .eq
    else if a == .null then aFirst
    else if b == .null then aFirst.swap
    else byValue

/-- The order of two rows by an ordering, given the values of its terms. -/
def compareByTerms : List OrderTerm → List Cell → List Cell → Ordering
  | term :: terms, a :: as, b :: bs => (compareTerm term a b).then (compareByTerms terms as bs)
  | _, _, _ => .eq

/-- The rows sorted by an ordering, each given with the values of its terms. -/
def sortRows {α : Type} (terms : List OrderTerm) (rows : List (List Cell × α)) : List α :=
  (rows.mergeSort fun a b => (compareByTerms terms a.1 b.1).isLE).map fun r => r.2

/-- Puts a row into sorted rows, after those that it agrees with. -/
def insertSorted {α : Type} (terms : List OrderTerm) (row : List Cell × α) :
    List (List Cell × α) → List (List Cell × α)
  | [] => [row]
  | r :: rest =>
    if compareByTerms terms row.1 r.1 == .lt then row :: r :: rest
    else r :: insertSorted terms row rest

/-- Whether a row with the keys is among the first ones, given those so far. -/
def isAmongFirst {α : Type} (terms : List OrderTerm) (count : Nat) (keys : List Cell)
    (first : List (List Cell × α)) : Bool :=
  first.length < count || first.getLast?.any fun last => compareByTerms terms keys last.1 == .lt

/-- The first `count` rows of an ordering. A row is computed only if it is among the first ones of
the rows that have been looked at. -/
def firstRows {α β : Type} (terms : List OrderTerm) (count : Nat)
    (keysOf : α → Except Fault (List Cell)) (compute : α → Except Fault β) :
    List (List Cell × β) → List α → Except Fault (List β)
  | first, [] => .ok (first.map fun r => r.2)
  | first, row :: rest => do
    let keys ← keysOf row
    if isAmongFirst terms count keys first then
      let result ← compute row
      firstRows terms count keysOf compute
        ((insertSorted terms (keys, result) first).take count) rest
    else firstRows terms count keysOf compute first rest

/-- The results of rows, sorted by an ordering and cut by a limit. -/
def arranged {α β : Type} (terms : List OrderTerm) (limit : Option Limit)
    (keysOf : α → Except Fault (List Cell)) (compute : α → Except Fault β) (rows : List α) :
    Except Fault (List β) := do
  match limit with
  | none =>
    let keyed ← rows.mapM fun row => do return (← keysOf row, ← compute row)
    return sortRows terms keyed
  | some l => return (← firstRows terms (l.offset + l.count) keysOf compute [] rows).drop l.offset

end TypedQuery.Engine
