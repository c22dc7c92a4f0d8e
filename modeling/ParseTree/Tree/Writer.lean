import ParseTree.Tree.Event

/-!
# Writing a tree

The compact JSON form of a tree, with the fields in a fixed order and no blanks between lexical
elements.  Inside strings the quote, the backslash and the control characters are escaped, and
nothing else is.

The writer takes the events of the tree one by one.  All it has to remember between them is whether
the next node is the first of its siblings, because the others follow a comma.
-/

namespace ParseTree.Json

/-! ## Scalars -/

/-- A character inside a string. -/
def escapeChar (c : Char) : List Char :=
  if c = '"' then ['\\', '"']
  else if c = '\\' then ['\\', '\\']
  else if c = '\x08' then ['\\', 'b']
  else if c = '\x0c' then ['\\', 'f']
  else if c = '\n' then ['\\', 'n']
  else if c = '\r' then ['\\', 'r']
  else if c = '\t' then ['\\', 't']
  else if c.toNat < 0x20 then
    ['\\', 'u', '0', '0', Nat.digitChar (c.toNat / 16), Nat.digitChar (c.toNat % 16)]
  else [c]

/-- A string in quotes. -/
def writeString (s : String) : String :=
  String.ofList ('"' :: (s.toList.flatMap escapeChar ++ ['"']))

/-! ## Nodes -/

/-- A token. -/
def writeToken (t : Token) : String :=
  "\x7b\"token\":\x7b\"kind\":" ++ t.kind.text ++ ",\"text\":" ++ writeString t.text ++
    ",\"line\":" ++ t.position.line.toNat.repr ++ ",\"column\":" ++ t.position.column.toNat.repr ++
    "\x7d\x7d"

/-- A rule up to the bracket of its children. -/
def writeRuleStart (label : String) : String :=
  "\x7b\"rule\":\x7b\"label\":" ++ writeString label ++ ",\"children\":["

/-- A rule from the closing bracket of its children. -/
def writeRuleEnd : String := "]\x7d\x7d"

/-- A text being written. -/
structure Writer where
  text : String := ""
  /-- Whether the next node is the first of its siblings. -/
  first : Bool := true
deriving Repr

/-- Puts a node, or its beginning, after its elder siblings. -/
def Writer.putNode (w : Writer) (node : String) : String :=
  if w.first then w.text ++ node else w.text ++ "," ++ node

/-- Writes one event. -/
def Writer.write (w : Writer) : Event → Writer
  | .start label => ⟨w.putNode (writeRuleStart label), true⟩
  | .token t => ⟨w.putNode (writeToken t), false⟩
  | .finish => ⟨w.text ++ writeRuleEnd, false⟩

end ParseTree.Json

namespace ParseTree

/-- The compact JSON form of a tree. -/
def Tree.toJson (t : Tree) : String :=
  (t.events.foldl Json.Writer.write {}).text

end ParseTree
