import TypedQuery.Text.Classes

/-!
# Placeholders

A statement has placeholders `?1`, `?2`, … where values are bound. A question mark between double
quotes belongs to a name. `Token` is a statement cut at its placeholders, `indices` are their
numbers in reading order, and `expand` puts a text in the place of each.
-/

set_option autoImplicit false

namespace TypedQuery.Sql

/-- A piece of a statement. -/
inductive Token where
  | character (c : Char)
  | placeholder (index : Nat)
  deriving DecidableEq, Repr

/-- The pieces of a statement. `quoted` tells whether it begins inside double quotes, and `pending`
is the number of the placeholder whose digits are being read. -/
def tokensFrom (quoted : Bool) (pending : Option Nat) : List Char → List Token
  | [] => pending.toList.map .placeholder
  | c :: rest =>
    match pending with
    | some n =>
      if Text.isDigit c then tokensFrom false (some (10 * n + Text.digitValue c)) rest
      else .placeholder n ::
        (if c = '?' then tokensFrom false (some 0) rest
         else .character c :: tokensFrom (c == '"') none rest)
    | none =>
      if quoted then .character c :: tokensFrom (c != '"') none rest
      else if c = '?' then tokensFrom false (some 0) rest
      else .character c :: tokensFrom (c == '"') none rest

/-- The pieces of a statement. -/
def tokens (sql : List Char) : List Token := tokensFrom false none sql

/-- The number of a placeholder. -/
def Token.index? : Token → Option Nat
  | .character _ => none
  | .placeholder index => some index

/-- The numbers of the placeholders, from left to right. -/
def indices (sql : List Char) : List Nat := (tokens sql).filterMap Token.index?

/-- How many parameters a statement has: the greatest number of a placeholder. -/
def parameterCount (sql : List Char) : Nat := (indices sql).foldl max 0

/-- The statement with a text in the place of each placeholder. -/
def expand (text : Nat → List Char) (sql : List Char) : List Char :=
  (tokens sql).flatMap fun
    | .character c => [c]
    | .placeholder index => text index

end TypedQuery.Sql
