import TypedQuery.Text.Classes

/-!
# Type tags

A column is declared with a free text such as `VARCHAR(20)`. `TypeTag.ofDeclared` classifies that
text by the words in it, and the tag decides which value types the column may be read as.
-/

set_option autoImplicit false

namespace TypedQuery

/-- The class of a declared column type. A column that is declared without a known type has the
tag `null` and takes any value. -/
inductive TypeTag where
  | integer
  | real
  | text
  | blob
  | null
  deriving DecidableEq, Repr

namespace TypeTag

/-- The name of a tag. -/
def name : TypeTag → String
  | .integer => "integer"
  | .real => "real"
  | .text => "text"
  | .blob => "blob"
  | .null => "null"

/-- Whether a list occurs inside another without gaps. -/
def occursIn (word : List Char) : List Char → Bool
  | [] => word.isEmpty
  | c :: rest => word.isPrefixOf (c :: rest) || occursIn word rest

/-- Whether one of the words occurs in a declared type, whatever the case of ASCII letters. -/
def mentions (declared : String) (words : List String) : Bool :=
  words.any fun word => occursIn word.toList (declared.toList.map Text.upperAscii)

/-- The tag of a declared type: the first class one of whose words occurs in it. -/
def ofDeclared (declared : String) : TypeTag :=
  if mentions declared ["INT"] then .integer
  else if mentions declared ["CHAR", "CLOB", "TEXT"] then .text
  else if mentions declared ["BLOB"] then .blob
  else if mentions declared ["REAL", "FLOA", "DOUB"] then .real
  else .null

end TypeTag

end TypedQuery
