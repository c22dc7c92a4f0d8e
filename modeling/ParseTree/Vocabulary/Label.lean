import ParseTree.Text.Capital

/-!
# Structural labels

A parser labels the nodes of its trees with the names of its rule contexts, such as
`FieldDeclarationContext`.  The vocabulary knows the same rule under its canonical name,
`FIELD_DECLARATION`.

* **Stripping** — `stripContext?` removes the suffix that marks a structural label.
* **Spelling** — `upperSnake` turns camel case into upper case with underscores: an underscore goes
  before every capital but the first character, and each character is then put in upper case.
* **The canonical name** — `canonicalName?` does both.
-/

namespace ParseTree.Label

/-- The end of every structural label. -/
def contextSuffix : List Char := "Context".toList

/-- The list without this suffix, if it ends in it. -/
def stripSuffix? (suffix s : List Char) : Option (List Char) :=
  if suffix.isSuffixOf s then some (s.take (s.length - suffix.length)) else none

/-- A structural label without the suffix that marks it. -/
def stripContext? (label : String) : Option String :=
  (stripSuffix? contextSuffix label.toList).map String.ofList

/-- The spelling of a character after the first. -/
def snakeChar (c : Char) : List Char :=
  if Text.isCapital c then '_' :: Text.upper c else Text.upper c

/-- Camel case in upper case with underscores, on characters. -/
def upperSnakeChars : List Char → List Char
  | [] => []
  | c :: rest => Text.upper c ++ rest.flatMap snakeChar

/-- Camel case in upper case with underscores. -/
def upperSnake (s : String) : String :=
  String.ofList (upperSnakeChars s.toList)

/-- The name under which the vocabulary knows a structural label. -/
def canonicalName? (label : String) : Option String :=
  (stripContext? label).map upperSnake

end ParseTree.Label
